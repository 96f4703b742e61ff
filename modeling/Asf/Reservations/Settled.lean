import Asf.Reservations.Admitted
import Asf.Reservations.Transitions
import Mathlib.Logic.Relation

/-!
# What a committed transaction has written

Results:

* `applyActiveReservationTransition_settles`: a transition closes one active
  set under its fence, with one `RELEASE` entry per budget reservation and one
  event whose key is new.
* `transitionReservationSet_cases`: a transition adopts the recorded event and
  writes nothing, or settles the set.
* `transaction_cases`: a call admits one set, or settles sets one after another,
  or is one of the changes other operations make.
* `run_invariant_of_effect`: what every such effect keeps holds after every run.
-/

namespace Asf.Reservations

open Lib

variable {receipt : ReservationTransitionReceipt} {answer : Answer} {state : State}
  {P : Timestamptz → Db → Prop}

variable {s s' : Session Db}

theorem tenantSet_eq_some_iff {db : Db} {tenantId setId : Uuid} {set : ReservationSet} :
    db.tenantSet tenantId setId = some set ↔
      set ∈ db.reservationSets.rows ∧ set.id = setId ∧ set.tenantId = tenantId := by
  simp [Db.tenantSet, Table.find?_eq_some_iff, and_assoc]

variable {transition : ReservationTransitionRequest} {target : ReservationTerminalState}
  {workItemId attemptId : Uuid} {receiptId : Option Uuid} {row : ReservationSet}

section Settlement

variable (transition : ReservationTransitionRequest) (target : ReservationTerminalState)
  (disposition : ReservationTransitionDisposition) (id : Uuid) (occurredAt : Timestamptz)

/-- The event a transition records. -/
def transitionEvent : ReservationSetEvent where
  id := id
  tenantId := transition.tenantId
  reservationSetId := transition.reservationSetId
  eventType := terminalEventType target
  previousFenceToken := transition.expectedFenceToken
  fenceToken := transition.expectedFenceToken + 1
  actorId := transition.actorId
  reason := transition.reason
  idempotencyKey := transition.idempotencyKey
  occurredAt := occurredAt

/-- The receipt that goes with that event. -/
def transitionReceipt : ReservationTransitionReceipt where
  reservationSetId := transition.reservationSetId
  state := target
  disposition := disposition
  previousFenceToken := transition.expectedFenceToken
  fenceToken := transition.expectedFenceToken + 1
  actorId := transition.actorId
  reason := transition.reason
  idempotencyKey := transition.idempotencyKey
  eventId := id
  occurredAt := .decode occurredAt

/-- What a committed transition of an active set has written. -/
structure Settled (s s' : Session Db) (set closed : ReservationSet) (entries : List BudgetEntry)
    (event : ReservationSetEvent) : Prop where
  now : s.now ≤ s'.now
  config : s'.db.config = s.db.config
  reservations : s'.db.reservations = s.db.reservations
  mem : set ∈ s.db.reservationSets.rows
  guard : isTransitionable transition transition.expectedFenceToken set
  closed_eq : ∃ receiptId occurredAt, closed =
    transitionedSet transition target (transition.expectedFenceToken + 1) receiptId occurredAt set
  sets : s'.db.reservationSets.rows =
    s.db.reservationSets.rows.map fun row => if row.id = set.id then closed else row
  ledger : s'.db.budgetLedger.rows = s.db.budgetLedger.rows ++ entries
  link : entries.map (·.link) =
    (s.db.budgetRows transition.tenantId transition.reservationSetId).map (·.link)
  release : ∀ entry ∈ entries, entry.tenantId = transition.tenantId ∧ entry.entryType = .release
  events : s'.db.setEvents.rows = s.db.setEvents.rows ++ [event]
  event_fresh : ∀ e ∈ s.db.setEvents.rows, ¬ e.SameKey event

end Settlement

section

variable {set closed : ReservationSet} {entries : List BudgetEntry} {event : ReservationSetEvent}

theorem terminalStateValue_ne_active (target : ReservationTerminalState) :
    terminalStateValue target ≠ .active := by
  cases target <;> nofun

section

variable (h : Settled transition target s s' set closed entries event)

include h

theorem Settled.guard_iff :
    set.tenantId = transition.tenantId ∧ set.id = transition.reservationSetId ∧
      set.state = .active ∧ set.fenceToken = transition.expectedFenceToken := by
  simpa [isTransitionable, and_assoc] using h.guard

theorem Settled.closed_id : closed.id = set.id := by
  obtain ⟨_, _, rfl⟩ := h.closed_eq
  rfl

theorem Settled.closed_state : closed.state = terminalStateValue target := by
  obtain ⟨_, _, rfl⟩ := h.closed_eq
  rfl

theorem Settled.closed_terminal : closed.state ≠ .active := by
  rw [h.closed_state]
  exact terminalStateValue_ne_active target

theorem Settled.mem_sets :
    row ∈ s'.db.reservationSets.rows ↔
      row = closed ∨ row ∈ s.db.reservationSets.rows ∧ row.id ≠ set.id := by
  rw [h.sets, List.mem_map]
  constructor
  · rintro ⟨row, hrow, rfl⟩
    split_ifs with hid
    · exact .inl rfl
    · exact .inr ⟨hrow, hid⟩
  · rintro (rfl | ⟨hrow, hid⟩)
    · exact ⟨set, h.mem, if_pos rfl⟩
    · exact ⟨row, hrow, if_neg hid⟩

end

end

theorem releaseBudgets_grows {occurredAt : Timestamptz} {rows : List Reservation} {u : PUnit}
    (h : Commits (rows.forM (releaseBudget transition workItemId attemptId occurredAt)) s u s') :
    ∃ entries, Grows s s' [] entries ∧ entries.map (·.link) = rows.map (·.link) ∧
      ∀ entry ∈ entries, entry.tenantId = transition.tenantId ∧ entry.entryType = .release := by
  refine forM_invariant (fun done s₁ => ∃ entries, Grows s s₁ [] entries ∧
    entries.map (·.link) = done.map (·.link) ∧ ∀ entry ∈ entries,
      entry.tenantId = transition.tenantId ∧ entry.entryType = .release) ?_
    ⟨[], .refl s, rfl, by simp⟩ h
  intro done row s₁ s₂ u ⟨entries, hgrows, hlink, hrelease⟩ hrow
  simp only [releaseBudget, commits_ofExcept_bind] at hrow
  obtain ⟨dimension, hdimension, hentry⟩ := hrow
  obtain ⟨entry, hentry, htenant, htype, hentryLink⟩ := insertBudgetEntry_grows hentry
  have hsome : row.budgetDimension = some dimension := by
    cases hd : row.budgetDimension with
    | none => simp [requiredColumn, hd] at hdimension
    | some d => simpa [requiredColumn, hd] using hdimension
  have hrowLink : row.link = entry.link := by
    rw [hentryLink, Reservation.link, hsome]
  refine ⟨entries ++ [entry], by simpa using hgrows.trans hentry, by simp [hlink, hrowLink], ?_⟩
  simpa [or_imp, forall_and] using ⟨⟨fun e he => (hrelease e he).1, htenant⟩,
    fun e he => (hrelease e he).2, htype⟩

/-- The update of the one row a transition guard can select. -/
theorem update_rows_eq {table : Table ReservationSet ReservationSet.id}
    {p : ReservationSet → Bool} {f : ReservationSet → ReservationSet}
    (hf : ∀ set, (f set).id = set.id) {set : ReservationSet} (hmem : set ∈ table.rows)
    (hp : p set) (honly : ∀ row, p row → row.id = set.id) :
    (table.update p f hf).rows =
      table.rows.map fun row => if row.id = set.id then f set else row := by
  rw [Table.update]
  apply List.map_congr_left
  intro row hrow
  by_cases hid : row.id = set.id
  · obtain rfl := Table.eq_of_key_eq hrow hmem hid
    simp [hp]
  · have : ¬ p row := fun h => hid (honly row h)
    simp [this, hid]

theorem applyActiveReservationTransition_settles
    (h : Commits (applyActiveReservationTransition transition target transition.expectedFenceToken
      workItemId attemptId receiptId) s receipt s') :
    ∃ set closed entries eventId occurredAt,
      receipt = transitionReceipt transition target .applied eventId occurredAt ∧
      Settled transition target s s' set closed entries
        (transitionEvent transition target eventId occurredAt) := by
  simp only [applyActiveReservationTransition, commits_reject_bind, commits_ofExcept_bind,
    commits_clockTimestamp_bind, commits_execute_bind, commits_select_bind] at h
  obtain ⟨-, expectedFence, hfence, -, updated, db, hupdate, hupdated, h⟩ := h
  obtain ⟨_, s₁, hbudget, h⟩ := commits_bind.mp h
  obtain ⟨eventId, s₂, hevent, h⟩ := commits_bind.mp h
  simp only [commits_ofExcept_bind, commits_pure] at h
  obtain ⟨fenceToken, hpositive, rfl, rfl⟩ := h
  have hexpected : expectedFence = transition.expectedFenceToken :=
    (i64TryFrom_eq_ok_iff.mp hfence).2
  have hnext : fenceToken = transition.expectedFenceToken + 1 := by
    have := positiveU64_eq_ok hpositive
    omega
  subst hexpected
  subst hnext
  obtain ⟨rfl, rfl⟩ := Prod.mk.inj (Except.ok.inj hupdate)
  obtain ⟨set, hset⟩ := List.exists_mem_of_length_pos (Nat.pos_of_ne_zero hupdated)
  obtain ⟨hmem, hguard⟩ := List.mem_filter.mp hset
  obtain ⟨entries, hgrows, hlink, hrelease⟩ := releaseBudgets_grows hbudget
  obtain ⟨setEvents, hnow, hdb, hevents, hfresh⟩ := insertSetEvent_writes hevent
  have honly : ∀ row, isTransitionable transition transition.expectedFenceToken row →
      row.id = set.id := by
    simp only [isTransitionable, Bool.and_eq_true, beq_iff_eq] at hguard ⊢
    rintro row ⟨⟨⟨-, hid⟩, -⟩, -⟩
    exact hid.trans hguard.1.1.2.symm
  refine ⟨set, transitionedSet transition target (transition.expectedFenceToken + 1) receiptId
    s.tick.now set, entries, eventId, s.tick.now, rfl,
    { now := ?_
      config := ?_
      reservations := ?_
      mem := hmem
      guard := hguard
      closed_eq := ⟨_, _, rfl⟩
      sets := ?_
      ledger := ?_
      link := hlink
      release := hrelease
      events := ?_
      event_fresh := ?_ }⟩
  · rw [hnow, hgrows.now]
    exact s.now_le_tick
  · rw [hdb]
    exact hgrows.config
  · rw [hdb]
    exact Table.ext' (by simpa using hgrows.reservations)
  · rw [hdb]
    exact (congrArg Table.rows hgrows.reservationSets).trans
      (update_rows_eq (transitionedSet_id _ _ _ _ _) hmem hguard honly)
  · rw [hdb]
    exact hgrows.budgetLedger
  · rw [hdb]
    exact hevents.trans (by rw [hgrows.setEvents]; rfl)
  · rw [hgrows.setEvents] at hfresh
    exact hfresh

/-! ## Adoption -/

/-- The event recorded under the key of a request. -/
def Db.recordedEvent (db : Db) (transition : ReservationTransitionRequest) :
    Option ReservationSetEvent :=
  db.setEvents.rows.find? fun event =>
    event.tenantId == transition.tenantId && event.idempotencyKey == transition.idempotencyKey

/-- The recorded event is that of the request, and the receipt reports it. -/
@[mk_iff] structure Answers (transition : ReservationTransitionRequest)
    (target : ReservationTerminalState)
    (event : ReservationSetEvent) (receipt : ReservationTransitionReceipt) : Prop where
  same : event.reservationSetId = transition.reservationSetId ∧
    event.eventType = terminalEventType target ∧
    event.previousFenceToken = min (transition.expectedFenceToken : ℤ) i64Max ∧
    event.actorId = transition.actorId ∧ event.reason = transition.reason
  reports : ∃ previousFenceToken fenceToken,
    positiveU64 event.previousFenceToken = .ok previousFenceToken ∧
    positiveU64 event.fenceToken = .ok fenceToken ∧
    receipt = {
      reservationSetId := event.reservationSetId
      state := target
      disposition := .adopted
      previousFenceToken := previousFenceToken
      fenceToken := fenceToken
      actorId := event.actorId
      reason := event.reason
      idempotencyKey := event.idempotencyKey
      eventId := event.id
      occurredAt := .decode event.occurredAt }

theorem commits_loadTransitionReceipt :
    Commits (loadTransitionReceipt transition target) s receipt s' ↔
      (∃ event, s.db.recordedEvent transition = some event ∧
        Answers transition target event receipt) ∧ s' = s := by
  simp only [loadTransitionReceipt, commits_select_bind, commits_orFail_bind, commits_reject_bind,
    commits_ofExcept_bind, commits_pure, not_or, not_not, answers_iff, exists_and_left]
  simp only [← and_assoc, exists_and_right]
  rfl

/-- The set is closed as the request asks, by the event recorded under its key. -/
structure Adopts (db : Db) (transition : ReservationTransitionRequest)
    (target : ReservationTerminalState) (receipt : ReservationTransitionReceipt) : Prop where
  valid : transition.validate = .ok ()
  fence : (transition.expectedFenceToken : ℤ) ≤ i64Max
  set : ∃ set, db.tenantSet transition.tenantId transition.reservationSetId = some set ∧
    set.state = terminalStateValue target ∧
    set.fenceToken = min ((transition.expectedFenceToken : ℤ) + 1) i64Max
  event : ∃ event, db.recordedEvent transition = some event ∧
    Answers transition target event receipt

/-- The answer to a request whose transition is recorded. -/
theorem Adopts.commits (h : Adopts s.db transition target receipt) :
    Commits (transitionReservationSet transition target) s receipt s := by
  obtain ⟨set, hset, hstate, hfence⟩ := h.set
  have hexpected : i64TryFrom transition.expectedFenceToken
      (.validation "reservation transition fence is too large") =
      .ok (transition.expectedFenceToken : ℤ) := if_pos h.fence
  simp only [transitionReservationSet, commits_ofExcept_bind, commits_select_bind,
    commits_orFail_bind]
  refine ⟨(), h.valid, _, hexpected, set, hset, ?_⟩
  rw [if_pos (hstate ▸ terminalStateValue_ne_active target), commits_reject_bind]
  exact ⟨by simp [hstate, hfence], commits_loadTransitionReceipt.mpr ⟨h.event, rfl⟩⟩

/-- A transition adopts the recorded event, or settles the active set. -/
theorem transitionReservationSet_cases
    (h : Commits (transitionReservationSet transition target) s receipt s') :
    (Adopts s.db transition target receipt ∧ s' = s) ∨
    transition.validate = .ok () ∧
    ∃ s₁ set closed entries eventId occurredAt, Reads s s₁ ∧
      receipt = transitionReceipt transition target .applied eventId occurredAt ∧
      Settled transition target s₁ s' set closed entries
        (transitionEvent transition target eventId occurredAt) := by
  simp only [transitionReservationSet, commits_ofExcept_bind, commits_select_bind,
    commits_orFail_bind] at h
  obtain ⟨_, hvalid, expectedFence, hfence, set, hset, h⟩ := h
  obtain ⟨hle, rfl⟩ := i64TryFrom_eq_ok_iff.mp hfence
  split_ifs at h with hactive hexpired
  · left
    rw [commits_reject_bind, commits_loadTransitionReceipt] at h
    obtain ⟨hsame, hevent, rfl⟩ := h
    rw [not_or, not_not, not_not] at hsame
    exact ⟨⟨hvalid, hle, ⟨set, hset, hsame⟩, hevent⟩, rfl⟩
  · right
    simp only [commits_reject_bind, commits_clockTimestamp_bind] at h
    obtain ⟨hset, -, h⟩ := h
    rw [not_not.mp hset] at h
    obtain ⟨set, closed, entries, eventId, occurredAt, hreceipt, hsettled⟩ :=
      applyActiveReservationTransition_settles h
    exact ⟨hvalid, _, set, closed, entries, eventId, occurredAt, .tick s, hreceipt, hsettled⟩
  · right
    simp only [commits_reject_bind] at h
    obtain ⟨hset, h⟩ := h
    rw [not_not.mp hset] at h
    obtain ⟨set, closed, entries, eventId, occurredAt, hreceipt, hsettled⟩ :=
      applyActiveReservationTransition_settles h
    exact ⟨hvalid, _, set, closed, entries, eventId, occurredAt, .refl s, hreceipt, hsettled⟩

/-! ## Every call -/

/-- One thing a transaction that admits nothing can do. -/
inductive Upkeep (s s' : Session Db) : Prop
  | reads (h : Reads s s')
  | settled (transition : ReservationTransitionRequest) (target : ReservationTerminalState)
      (set closed : ReservationSet) (entries : List BudgetEntry) (event : ReservationSetEvent)
      (h : Settled transition target s s' set closed entries event)
  | configured (config : Config) (hlimits : config.limits = s.db.config.limits)
      (h : s' = s.withDb { s.db with config })
  | consumed (entry : BudgetEntry) (htype : entry.entryType = .consume ∨ entry.entryType = .adjust)
      (h : Grows s s' [] [entry])

/-- What such a transaction can do: one thing after another. -/
abbrev Upkeeps : Session Db → Session Db → Prop := Relation.ReflTransGen Upkeep

/-- One thing a transaction can do. -/
inductive Effect (codec : Codec) (s s' : Session Db) : Prop
  | admitted (request : AdmissionReservationRequest) (identities : List IdentityCapacityRequest)
      (set : ReservationSet) (rows : List Reservation) (entries : List BudgetEntry)
      (event : ReservationSetEvent) (hvalid : request.validate = .ok identities)
      (h : Admitted codec request identities s s' set rows entries event)
  | upkeep (h : Upkeep s s')

variable {codec : Codec}

theorem Upkeeps.of_reads (h : Reads s s') : Upkeeps s s' := .single (.reads h)

theorem transitionReservationSet_upkeeps
    (h : Commits (transitionReservationSet transition target) s receipt s') : Upkeeps s s' := by
  rcases transitionReservationSet_cases h with ⟨-, rfl⟩ |
    ⟨-, s₁, _, _, _, _, _, hreads, -, hsettled⟩
  · exact .refl
  · exact (Upkeeps.of_reads hreads).tail (.settled _ _ _ _ _ _ hsettled)

variable {actorId reason : String} {key : ReservationSet → String} {request : Request}

theorem transitionRow_upkeep
    (h : Commits (transitionRow target actorId reason key receiptId row) s receipt s') :
    Upkeep s s' := by
  simp only [transitionRow, commits_ofExcept_bind] at h
  obtain ⟨expectedFenceToken, hfence, h⟩ := h
  rw [← positiveU64_eq_ok hfence] at h
  obtain ⟨_, _, _, _, _, -, hsettled⟩ := applyActiveReservationTransition_settles h
  exact .settled _ _ _ _ _ _ hsettled

theorem transitionRows_upkeeps {rows : List ReservationSet}
    {receipts : List ReservationTransitionReceipt}
    (h : Commits (rows.mapM (transitionRow target actorId reason key receiptId)) s receipts s') :
    Upkeeps s s' :=
  mapM_invariant (fun _ _ s₁ => Upkeeps s s₁)
    (fun _ _ _ _ _ _ hs h => hs.tail (transitionRow_upkeep h)) .refl h

theorem releaseActiveAttemptReservations_upkeeps {tenantId expectedWorkerId : Uuid}
    {ns : AttemptReservationReleaseNamespace} {n : ℕ}
    (h : Commits (releaseActiveAttemptReservations tenantId workItemId attemptId expectedWorkerId ns
      actorId reason) s n s') : Upkeeps s s' := by
  simp only [releaseActiveAttemptReservations, commits_reject_bind, commits_select_bind] at h
  obtain ⟨-, h⟩ := h
  obtain ⟨_, s₁, hworkers, h⟩ := commits_bind.mp h
  obtain ⟨receipts, s₂, hrows, h⟩ := commits_bind.mp h
  obtain ⟨-, rfl⟩ := commits_pure.mp h
  have hs₁ : s₁ = s := forM_invariant (fun _ t => t = s)
    (fun _ _ _ _ _ ht hr => (commits_reject.mp hr).2.trans ht) rfl hworkers
  rw [hs₁] at hrows
  exact transitionRows_upkeeps hrows

/-- **What a call can do.** It admits one set, or none. -/
theorem transaction_cases {call : Call} (h : Commits (call.transaction codec) s answer s') :
    (∃ request identities set rows entries event, request.validate = .ok identities ∧
      Admitted codec request identities s s' set rows entries event) ∨ Upkeeps s s' := by
  cases call with
  | acquire request =>
    obtain ⟨receipt, h, -⟩ := commits_map.mp h
    rcases acquireAdmissionReservations_cases h with ⟨-, hreads⟩ |
      ⟨-, identities, hvalid, set, rows,
      entries, event, hadmitted⟩
    · exact .inr (.of_reads hreads)
    · exact .inl ⟨_, _, _, _, _, _, hvalid, hadmitted⟩
  | release request =>
    obtain ⟨receipt, h, -⟩ := commits_map.mp h
    exact .inr <| transitionReservationSet_upkeeps h
  | expire request =>
    obtain ⟨receipt, h, -⟩ := commits_map.mp h
    exact .inr <| transitionReservationSet_upkeeps h
  | sweep tenantId actorId limit locked =>
    obtain ⟨receipts, h, -⟩ := commits_map.mp h
    simp only [expireElapsedReservationSets, commits_reject_bind, commits_ofExcept_bind,
      commits_clockTimestamp_bind, commits_select_bind] at h
    obtain ⟨-, _, -, -, h⟩ := h
    exact .inr <|
      (Upkeeps.of_reads ((Reads.tick s).trans (.tick _))).trans (transitionRows_upkeeps h)
  | releaseWorker tenantId workerId actorId reason =>
    obtain ⟨n, h, -⟩ := commits_map.mp h
    simp only [releaseActiveWorkerReservations, commits_select_bind] at h
    obtain ⟨receipts, s₁, hrows, h⟩ := commits_bind.mp h
    obtain ⟨-, rfl⟩ := commits_pure.mp h
    exact .inr (transitionRows_upkeeps hrows)
  | releaseAttempt tenantId workItemId attemptId expectedWorkerId ns actorId reason =>
    obtain ⟨n, h, -⟩ := commits_map.mp h
    exact .inr <| releaseActiveAttemptReservations_upkeeps h
  | configure config =>
    obtain ⟨_, h, -⟩ := commits_map.mp h
    obtain ⟨-, db, hdb, rfl⟩ := commits_execute.mp h
    split_ifs at hdb with hlimits
    obtain ⟨-, rfl⟩ := Prod.mk.inj (Except.ok.inj hdb)
    exact .inr (.single (.configured config hlimits rfl))
  | consume entry =>
    obtain ⟨_, h, -⟩ := commits_map.mp h
    obtain ⟨-, db, hdb, rfl⟩ := commits_execute.mp h
    split_ifs at hdb with htype
    obtain ⟨budgetLedger, hrows, rfl⟩ := insertEntry_eq_ok hdb
    exact .inr (.single (.consumed entry htype ⟨rfl, rfl, rfl, rfl, by simp, hrows⟩))

/-- A call that commits. -/
theorem step_of_commits
    (h : Commits (request.call.transaction codec) (request.session state) answer s') :
    (ledger codec).step state request = (⟨s'.now, s'.db⟩, .ok answer) := by
  simp [ledger, perform, atomically_of_commits h]

/-- A call that answers has committed. -/
theorem commits_of_answer (h : (ledger codec).answer state request = .ok answer) :
    ∃ s', Commits (request.call.transaction codec) (request.session state) answer s' ∧
      (ledger codec).next state request = ⟨s'.now, s'.db⟩ := by
  simp only [Machine.answer, Machine.next, ledger, perform] at h ⊢
  rcases atomically_cases (request.call.transaction codec) (request.session state) with
    ⟨answer', s', hcommits, heq⟩ | ⟨e, heq⟩
  · rw [heq] at h ⊢
    obtain rfl := Except.ok.inj h
    exact ⟨s', hcommits, rfl⟩
  · rw [heq] at h
    exact absurd h (by simp)

/-- A request does what its transaction does, or fails and changes nothing. -/
theorem next_cases (codec : Codec) (state : State) (request : Request) :
    (∃ s', ((∃ admission identities set rows entries event, admission.validate = .ok identities ∧
        Admitted codec admission identities (request.session state) s' set rows entries event) ∨
      Upkeeps (request.session state) s') ∧
      (ledger codec).next state request = ⟨s'.now, s'.db⟩) ∨
    (ledger codec).next state request = state := by
  simp only [Machine.next, ledger, perform]
  rcases atomically_cases (request.call.transaction codec) (request.session state) with
    ⟨answer, s', hcommits, heq⟩ | ⟨e, heq⟩
  · rw [heq]
    exact .inl ⟨s', transaction_cases hcommits, rfl⟩
  · rw [heq]
    exact .inr rfl

/-- What one thing after another keeps. -/
theorem Upkeeps.invariant (hupkeep : ∀ s s', Upkeep s s' → P s.now s.db → P s'.now s'.db)
    (h : Upkeeps s s') (hs : P s.now s.db) : P s'.now s'.db := by
  induction h with
  | refl => exact hs
  | tail _ hlast ih => exact hupkeep _ _ hlast ih

/-- **Invariant rule for the machine.** What every effect keeps holds after
    every run. -/
theorem run_invariant_of_effect
    (heffect : ∀ s s', Effect codec s s' → P s.now s.db → P s'.now s'.db)
    (h : P state.clock state.db) (l : List Request) :
    P ((ledger codec).run state l).clock ((ledger codec).run state l).db := by
  refine (ledger codec).run_invariant (P := fun state => P state.clock state.db) ?_ h l
  intro state request hP
  rcases next_cases codec state request with
    ⟨s', ⟨_, _, _, _, _, _, hvalid, hadmitted⟩ | hupkeeps, heq⟩ | heq
  · rw [heq]
    exact heffect _ _ (.admitted _ _ _ _ _ _ hvalid hadmitted) hP
  · rw [heq]
    exact hupkeeps.invariant (fun _ _ h => heffect _ _ (.upkeep h)) hP
  · rw [heq]
    exact hP

end Asf.Reservations
