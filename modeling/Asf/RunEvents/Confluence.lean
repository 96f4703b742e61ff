import Asf.RunEvents.Progress

/-!
# The order of deliveries

A worker may deliver the events of a run in any order and more than once. The
run then stands where the events that follow one another take it, in the order
of their sequences, provided that no event ends the run before it was adopted.

Results:

* `Delivered.of_ingests`: what a delivery adds to the account of the events so far.
* `Delivered.mem_next`: an undisturbed delivery gets its event stored.
* `deliveries_confluent`: where the run stands after any deliveries of a set of
  events.
* `early_terminal_event_wedges`: an event that ends the run before its adoption
  makes the result depend on the order.
-/

namespace Asf.RunEvents

open Lib (Table Indexed Replay Commits)
open RawRunEvent
open List (inj_on_of_nodup_map mem_filter)

variable {incoming : IncomingRunEvent} {applied : List RawRunEvent}

variable {codec : Codec} {fence : WorkerSessionFence} {runId : Uuid} {run run' : LockedRun}
  {event : RawRunEvent} {db db' : Db} {base row : RunRow} {expiresAt : Timestamptz}

/-! ## The events of a run -/

section Deliveries

variable (codec : Codec) (fence : WorkerSessionFence) (start : Db) (runId : Uuid)
  (events : List IncomingRunEvent)

/-- The event is valid and can be stored beside what `start` holds. -/
def acceptable (incoming : IncomingRunEvent) : Bool :=
  incoming.validate.toBool
    && start.rawRunEvents.rows.all fun row => !row.conflicts (rawRow codec fence incoming)

/-- The events of a run: those that `start` holds, and those of `events` that can be
    stored beside them. -/
def runLog : List RawRunEvent :=
  eventsOf fence.tenantId runId start
    ++ (events.filter (acceptable codec fence start)).map (rawRow codec fence)

/-- The longest part of the events, from the run's cursor on, that has consecutive
    sequences and aggregate versions, decodes, binds and makes valid transitions, with
    the run that folding it gives. -/
def foldRunLog (base : RunRow) (order : WorkOrder) (events : List IncomingRunEvent) :
    List RawRunEvent × LockedRun :=
  (projection codec fence base.id).contiguous
    (Replay.logOf sequence (runLog codec fence start base.id events))
    (runLog codec fence start base.id events).length (.ofRow base order)

/-- No two events share an identity. -/
structure Distinct : Prop where
  ids : (events.map (·.id)).Nodup
  externalEventIds : (events.map (·.externalEventId)).Nodup
  cursors : (events.map (·.cursor)).Nodup
  sequences : (events.map (·.sequence)).Nodup

end Deliveries

variable {start : Db} {events : List IncomingRunEvent} {order : WorkOrder} {tenantId : Uuid}
  {stored : Db} (micros : ℤ)

theorem toBool_validate : incoming.validate.toBool ↔ incoming.validate = .ok () := by
  cases incoming.validate with
  | error e => simp [Except.toBool]
  | ok u => simp [Except.toBool]

theorem acceptable_iff :
    acceptable codec fence start incoming ↔ incoming.validate = .ok () ∧
      ∀ row ∈ start.rawRunEvents.rows, row.conflicts (rawRow codec fence incoming) = false := by
  simp only [acceptable, Bool.and_eq_true, toBool_validate, List.all_eq_true, Bool.not_eq_true']

theorem mem_runLog : event ∈ runLog codec fence start runId events ↔
    (event ∈ start.rawRunEvents.rows ∧ event.ofRun fence.tenantId runId) ∨
      ∃ incoming ∈ events, acceptable codec fence start incoming ∧
        rawRow codec fence incoming = event := by
  simp [runLog, eventsOf, and_assoc]

theorem rawRow_ofRun (h : incoming.runId = runId) :
    (rawRow codec fence incoming).ofRun fence.tenantId runId :=
  ofRun_iff.mpr ⟨rfl, h⟩

/-- A run's events have different sequences. -/
theorem runLog_injective (hruns : ∀ incoming ∈ events, incoming.runId = runId)
    (hdistinct : Distinct events) :
    ∀ a ∈ runLog codec fence start runId events, ∀ b ∈ runLog codec fence start runId events,
      a.sequence = b.sequence → a = b := by
  -- an event that can be stored differs from every stored one
  have hnew : ∀ a ∈ start.rawRunEvents.rows, a.ofRun fence.tenantId runId →
      ∀ incoming ∈ events, acceptable codec fence start incoming →
        a.sequence ≠ (rawRow codec fence incoming).sequence := by
    intro a ha harun incoming hincoming hacceptable hsequence
    obtain ⟨htenant, hrun⟩ := ofRun_iff.mp harun
    have hconflicts : a.conflicts (rawRow codec fence incoming) := conflicts_iff.mpr
      (.inr ⟨⟨htenant, hrun.trans (hruns incoming hincoming).symm⟩, .inr (.inr hsequence)⟩)
    rw [(acceptable_iff.mp hacceptable).2 a ha] at hconflicts
    cases hconflicts
  intro a ha b hb hsequence
  rcases mem_runLog.mp ha with ⟨ha, harun⟩ | ⟨incoming, hincoming, hacceptable, rfl⟩
  · rcases mem_runLog.mp hb with ⟨hb, hbrun⟩ | ⟨incoming, hincoming, hacceptable, rfl⟩
    · exact event_unique_sequence ha hb harun hbrun hsequence
    · exact absurd hsequence (hnew a ha harun incoming hincoming hacceptable)
  · rcases mem_runLog.mp hb with ⟨hb, hbrun⟩ | ⟨other, hother, -, rfl⟩
    · exact absurd hsequence.symm (hnew b hb hbrun incoming hincoming hacceptable)
    · rw [inj_on_of_nodup_map hdistinct.sequences hincoming hother hsequence]

/-- Different events do not conflict. -/
theorem conflicts_rawRow (hdistinct : Distinct events) {a b : IncomingRunEvent} (ha : a ∈ events)
    (hb : b ∈ events) (hne : a ≠ b) :
    (rawRow codec fence a).conflicts (rawRow codec fence b) = false := by
  have hid : a.id ≠ b.id := fun h => hne (inj_on_of_nodup_map hdistinct.ids ha hb h)
  have hexternal : a.externalEventId ≠ b.externalEventId :=
    fun h => hne (inj_on_of_nodup_map hdistinct.externalEventIds ha hb h)
  have hcursor : a.cursor ≠ b.cursor := fun h => hne (inj_on_of_nodup_map hdistinct.cursors ha hb h)
  have hsequence : a.sequence ≠ b.sequence :=
    fun h => hne (inj_on_of_nodup_map hdistinct.sequences ha hb h)
  simp [conflicts, rawRow, hid, hexternal, hcursor, hsequence]

/-! ## What the deliveries so far have made of the tables -/

/-- A start: a live session, the authoritative run that is bound to it, and nothing
    left to apply. -/
structure Ready (codec : Codec) (fence : WorkerSessionFence) (expiresAt : Timestamptz) (db : Db)
    (base : RunRow) (order : WorkOrder) : Prop where
  authorized : Authorized fence expiresAt db
  run : runProjectionRow fence.tenantId base.id db = some (base, order)
  bound : isBound fence base
  authoritative : base.authoritative
  booked : Booked fence.tenantId base.id db (.ofRow base order)
  settled : (projection codec fence base.id).Settled (storedLog fence.tenantId base.id db)
    (.ofRow base order)

/-- `applied` was applied since `start`, and the run stands at `row`. -/
structure Delivered (codec : Codec) (fence : WorkerSessionFence) (start : Db) (base : RunRow)
    (order : WorkOrder) (events : List IncomingRunEvent) (db : Db) (row : RunRow)
    (applied : List RawRunEvent) : Prop where
  authority : db.workers = start.workers ∧ db.workerSessions = start.workerSessions
  workOrders : db.workOrders = start.workOrders
  kept : start.rawRunEvents.rows ⊆ db.rawRunEvents.rows
  new : ∀ event ∈ db.rawRunEvents.rows, event ∈ start.rawRunEvents.rows ∨
    ∃ incoming ∈ events, acceptable codec fence start incoming ∧ rawRow codec fence incoming = event
  run : runProjectionRow fence.tenantId base.id db = some (row, order)
  bound : isBound fence row
  authoritative : row.authoritative
  continues : Continues base row
  booked : Booked fence.tenantId base.id db (.ofRow row order)
  replayed : (projection codec fence base.id).Replays (storedLog fence.tenantId base.id db)
    (.ofRow base order) applied (.ofRow row order)
  settled : (projection codec fence base.id).Settled (storedLog fence.tenantId base.id db)
    (.ofRow row order)
  applications : db.runEventApplications.rows =
    start.runEventApplications.rows ++ applied.map applicationFor

theorem Ready.delivered (h : Ready codec fence expiresAt start base order) :
    Delivered codec fence start base order events start base [] where
  authority := ⟨rfl, rfl⟩
  workOrders := rfl
  kept := List.Subset.refl _
  new _ h := .inl h
  run := h.run
  bound := h.bound
  authoritative := h.authoritative
  continues := .refl base
  booked := h.booked
  replayed := .nil _
  settled := h.settled
  applications := by simp

section

variable (h : Drains codec fence runId db run applied db' run')

include h

theorem Drains.continues (hm : Mirrors fence runId db run) (hrow : db.runs.find? runId = some row)
    (hcontinues : Continues base row) :
    ∃ new, db'.runs.find? runId = some new ∧ Continues base new := by
  induction h generalizing row with
  | nil => exact ⟨row, hrow, hcontinues⟩
  | cons turn _ ih =>
    obtain ⟨new, hnew, hcontinues'⟩ := hcontinues.of_turn turn hm hrow
    exact ih (turn.mirrors hm) hnew hcontinues'

theorem Drains.booked
    (hbooked : Booked fence.tenantId runId db run) : Booked fence.tenantId runId db' run' := by
  induction h with
  | nil => exact hbooked
  | cons turn _ ih => exact ih (hbooked.of_turn turn)

end

theorem Stores.booked (h : Stores codec fence incoming db db')
    (hbooked : Booked tenantId runId db run) : Booked tenantId runId db' run := by
  rcases h with h | ⟨-, -, rfl⟩
  · exact hbooked.of_adds h
  · exact hbooked

theorem eventsOf_injective (tenantId runId : Uuid) (db : Db) :
    ∀ a ∈ eventsOf tenantId runId db, ∀ b ∈ eventsOf tenantId runId db,
      a.sequence = b.sequence → a = b := by
  intro a ha b hb hab
  obtain ⟨ha, harun⟩ := mem_filter.mp ha
  obtain ⟨hb, hbrun⟩ := mem_filter.mp hb
  exact event_unique_sequence ha hb harun hbrun hab

theorem storedLog_mono (hsub : db.rawRunEvents.rows ⊆ db'.rawRunEvents.rows)
    (sequence : ℤ) (event : RawRunEvent) (h : storedLog tenantId runId db sequence = some event) :
    storedLog tenantId runId db' sequence = some event := by
  obtain ⟨hmem, hsequence⟩ := Replay.mem_of_logOf h
  obtain ⟨hmem, hrun⟩ := mem_filter.mp hmem
  exact (Replay.logOf_eq_some_iff (eventsOf_injective _ _ _)).mpr
    ⟨mem_filter.mpr ⟨hsub hmem, hrun⟩, hsequence⟩

namespace Delivered

variable (h : Delivered codec fence start base order events db row applied)

include h

theorem mirrors : Mirrors fence base.id db (.ofRow row order) :=
  ⟨row, order, h.run, h.bound, h.authoritative, rfl⟩

/-- **Step lemma.** What a committed delivery adds to the account. -/
theorem of_ingests {more : List RawRunEvent} (hincoming : incoming ∈ events)
    (hrunId : incoming.runId = base.id) (hvalid : incoming.validate = .ok ())
    (hingests : Ingests codec fence incoming db stored db' run more run') :
    ∃ row', Delivered codec fence start base order events db' row' (applied ++ more) := by
  obtain ⟨hlocked, hstores, hdrains, hsettled⟩ := hingests
  rw [hrunId] at hlocked hdrains hsettled
  have hrun : run = .ofRow row order := by
    obtain ⟨row₀, order₀, hrow₀, -, -, rfl⟩ := hlocked
    obtain ⟨rfl, rfl⟩ := Prod.mk.inj (Option.some.inj (h.run.symm.trans hrow₀))
    rfl
  subst hrun
  have hsub := hstores.events_subset
  obtain ⟨hruns, horders, hworkers, hsessions, happlications⟩ := hstores.runs
  obtain ⟨hfound, horder, -⟩ := runProjectionRow_eq_some_iff.mp h.run
  obtain ⟨hworkers', hsessions', horders'⟩ := hdrains.authority
  obtain ⟨new, hnew, hcontinues⟩ :=
    hdrains.continues (hstores.mirrors hlocked) (hruns ▸ hfound) h.continues
  -- the run after the drain is the row that the tables hold, with the same Work Order
  obtain ⟨row', order', hrow', hbound, hauthoritative, rfl⟩ :=
    hdrains.mirrors (hstores.mirrors hlocked)
  obtain ⟨hfound', horder', -⟩ := runProjectionRow_eq_some_iff.mp hrow'
  obtain rfl := Option.some.inj (hnew.symm.trans hfound')
  rw [horders', horders, hcontinues.workOrderId, ← h.continues.workOrderId, horder] at horder'
  obtain rfl := Option.some.inj horder'
  have hlog : storedLog fence.tenantId base.id db' = storedLog fence.tenantId base.id stored :=
    storedLog_congr hdrains.rawRunEvents
  refine ⟨new, ⟨hworkers'.trans (hworkers.trans h.authority.1),
      hsessions'.trans (hsessions.trans h.authority.2)⟩,
    horders'.trans (horders.trans h.workOrders),
    ?_, ?_, hrow', hbound, hauthoritative, hcontinues, hdrains.booked (hstores.booked h.booked), ?_,
    hsettled, ?_⟩
  · rw [hdrains.rawRunEvents]
    exact List.Subset.trans h.kept hsub
  · intro event hevent
    rw [hdrains.rawRunEvents] at hevent
    rcases hstores with hadds | ⟨-, -, rfl⟩
    · rw [hadds.events, List.mem_append, List.mem_singleton] at hevent
      rcases hevent with hevent | rfl
      · exact h.new event hevent
      · have hacceptable : acceptable codec fence start incoming :=
          acceptable_iff.mpr ⟨hvalid, fun r hr => hadds.free r (h.kept hr)⟩
        exact .inr ⟨incoming, hincoming, hacceptable, rfl⟩
    · exact h.new event hevent
  · rw [hlog]
    exact (h.replayed.mono (storedLog_mono hsub)).append hdrains.replays
  · rw [hdrains.applications, happlications, h.applications, List.map_append, List.append_assoc]

end Delivered

/-! ## Deliveries -/

/-- No statement is rejected by what is not modelled, and the session lives until the
    event is stored. -/
def Request.Undisturbed (request : Request) (expiresAt : Timestamptz) : Prop :=
  (∀ context, request.verdict context = none) ∧
    request.now + request.pauses 0 + request.pauses 1 < expiresAt

/-- The requests deliver `events`, in some order, each at least once. -/
structure Delivers (fence : WorkerSessionFence) (expiresAt : Timestamptz)
    (events : List IncomingRunEvent) (requests : List Request) : Prop where
  only : ∀ request ∈ requests, ∃ incoming ∈ events, request.call = .ingest fence incoming
  every : ∀ incoming ∈ events, ∃ request ∈ requests, request.call = .ingest fence incoming ∧
    request.Undisturbed expiresAt

/-- Raw events are never removed. -/
theorem rawRunEvents_subset_next (codec : Codec) (db : Db) (request : Request) :
    db.rawRunEvents.rows ⊆ ((ledger codec).next db request).rawRunEvents.rows := by
  change db.rawRunEvents.rows ⊆ (perform codec db request).1.rawRunEvents.rows
  rcases perform_cases codec db request with ⟨error, hstep⟩ |
    ⟨fence, incoming, stored, run, events, run', -, -, h⟩ |
    ⟨workers, workerSessions, -, hstep⟩
  · rw [hstep]
    exact List.Subset.refl _
  · rw [h.drains.rawRunEvents]
    exact h.stores.events_subset
  · rw [hstep]
    exact List.Subset.refl _

theorem exists_adds (hfree : ∀ row ∈ db.rawRunEvents.rows, row.conflicts event = false) :
    ∃ stored, Adds db event stored := by
  rcases hinsert : db.insertRawEvent event with ⟨_ | _, stored⟩
  · obtain ⟨⟨row, hrow, hconflicts⟩, -⟩ := insertRawEvent_eq_false_iff.mp hinsert
    simp [hfree row hrow] at hconflicts
  · exact ⟨stored, insertRawEvent_eq_true_iff.mp hinsert⟩

/-- The version moves with the sequence. -/
theorem replays_version {log : ℤ → Option RawRunEvent}
    (h : (projection codec fence runId).Replays log run applied run') :
    run'.lastEventSequence = run.lastEventSequence + applied.length ∧
      run'.aggregateVersion = run.aggregateVersion + applied.length := by
  induction h with
  | nil => simp
  | cons hnext _ ih =>
    obtain ⟨-, hfollow⟩ := Replay.next_eq_some_iff.mp hnext
    obtain ⟨_, -, -, rfl⟩ := follow_eq_some_iff.mp hfollow
    simp only [List.length_cons, Nat.cast_add, Nat.cast_one] at ih ⊢
    omega

theorem nodup_eventsOf (tenantId runId : Uuid) (db : Db) : (eventsOf tenantId runId db).Nodup := by
  refine List.Nodup.filter _ (db.rawRunEvents.unique.imp ?_)
  rintro a _ hfree rfl
  simp [conflicts] at hfree

namespace Delivered

variable (h : Delivered codec fence start base order events db row applied)

include h

/-- The stored events of the run are events of its log. -/
theorem eventsOf_subset :
    eventsOf fence.tenantId base.id db ⊆ runLog codec fence start base.id events := by
  intro event hevent
  obtain ⟨hmem, hrun⟩ := mem_filter.mp hevent
  rcases h.new event hmem with hstart | hnew
  · exact mem_runLog.mpr (.inl ⟨hstart, hrun⟩)
  · exact mem_runLog.mpr (.inr hnew)

variable (hruns : ∀ incoming ∈ events, incoming.runId = base.id) {request : Request}

include hruns

theorem of_next (hincoming : incoming ∈ events) (hcall : request.call = .ingest fence incoming) :
    ∃ row' applied', Delivered codec fence start base order events
      ((ledger codec).next db request) row' applied' := by
  change ∃ row' applied', Delivered codec fence start base order events
    (perform codec db request).1 row' applied'
  rcases perform_cases codec db request with ⟨error, hstep⟩ |
    ⟨fence', incoming', stored, run, more, run', hcall', hvalid, hingests⟩ |
    ⟨workers, workerSessions, hcall', -⟩
  · exact ⟨row, applied, by rwa [hstep]⟩
  · obtain ⟨rfl, rfl⟩ := Call.ingest.inj (hcall.symm.trans hcall')
    obtain ⟨row', hrow'⟩ := h.of_ingests hincoming (hruns _ hincoming) hvalid hingests
    exact ⟨row', _, hrow'⟩
  · cases hcall.symm.trans hcall'

variable (hdistinct : Distinct events)

include hdistinct

/-- What was applied is a replay of the run's log. -/
theorem replays :
    (projection codec fence base.id).Replays
      (Replay.logOf sequence (runLog codec fence start base.id events))
      (.ofRow base order) applied (.ofRow row order) := by
  refine h.replayed.mono fun sequence event hevent => ?_
  obtain ⟨hmem, hsequence⟩ := Replay.mem_of_logOf hevent
  exact (Replay.logOf_eq_some_iff (runLog_injective hruns hdistinct)).mpr
    ⟨h.eventsOf_subset hmem, hsequence⟩

/-- With every event stored that can be, the stored events are the run's log. -/
theorem storedLog_eq
    (hstored : ∀ incoming ∈ events, acceptable codec fence start incoming →
      rawRow codec fence incoming ∈ db.rawRunEvents.rows) :
    storedLog fence.tenantId base.id db =
      Replay.logOf sequence (runLog codec fence start base.id events) := by
  funext sequence
  ext event
  constructor
  · intro hevent
    obtain ⟨hmem, hsequence⟩ := Replay.mem_of_logOf hevent
    exact (Replay.logOf_eq_some_iff (runLog_injective hruns hdistinct)).mpr
      ⟨h.eventsOf_subset hmem, hsequence⟩
  · intro hevent
    obtain ⟨hmem, hsequence⟩ := Replay.mem_of_logOf hevent
    have hmem' : event ∈ eventsOf fence.tenantId base.id db := by
      rcases mem_runLog.mp hmem with ⟨hstart, hrun⟩ | ⟨incoming, hincoming, hacceptable, rfl⟩
      · exact mem_filter.mpr ⟨h.kept hstart, hrun⟩
      · exact mem_filter.mpr ⟨hstored incoming hincoming hacceptable,
          rawRow_ofRun (hruns incoming hincoming)⟩
    exact (Replay.logOf_eq_some_iff (eventsOf_injective _ _ _)).mpr ⟨hmem', hsequence⟩

variable (hroom : Room (.ofRow base order) (runLog codec fence start base.id events).length)

include hroom

/-- The counters have room for what is still ahead. -/
theorem room
    (hsub : eventsOf fence.tenantId base.id stored ⊆ runLog codec fence start base.id events) :
    Room (.ofRow row order) (ahead codec fence base.id stored (.ofRow row order)) := by
  have hreplays := h.replays hruns hdistinct
  have hlength := hreplays.length_le
  obtain ⟨hsequence, hversion⟩ := replays_version hreplays
  have hahead : ahead codec fence base.id stored (.ofRow row order) ≤
      ((projection codec fence base.id).pending sequence
        (runLog codec fence start base.id events) (.ofRow row order)).length :=
    Replay.length_pending_le_of_subset (nodup_eventsOf _ _ _) hsub _
  have htotal : ((projection codec fence base.id).pending sequence
      (runLog codec fence start base.id events) (.ofRow base order)).length ≤
      (runLog codec fence start base.id events).length := Replay.length_pending_le _
  obtain ⟨hroomSequence, hroomVersion, hroomCount⟩ := hroom
  exact ⟨by omega, by omega, by omega⟩

variable (hauthorized : Authorized fence expiresAt start)
  (htime : ∀ event ∈ runLog codec fence start base.id events, InTime base event)

include hauthorized htime

/-- **Progress.** An undisturbed delivery of an event that can be stored stores it, unless
    it is stored. -/
theorem mem_next (hincoming : incoming ∈ events)
    (hcall : request.call = .ingest fence incoming) (hundisturbed : request.Undisturbed expiresAt)
    (hacceptable : acceptable codec fence start incoming) :
    rawRow codec fence incoming ∈ ((ledger codec).next db request).rawRunEvents.rows := by
  by_cases hmem : rawRow codec fence incoming ∈ db.rawRunEvents.rows
  · exact rawRunEvents_subset_next codec db request hmem
  -- the event is new: it conflicts with nothing that is stored
  have hfree : ∀ r ∈ db.rawRunEvents.rows, r.conflicts (rawRow codec fence incoming) = false := by
    intro r hr
    rcases h.new r hr with hstart | ⟨other, hother, -, rfl⟩
    · exact (acceptable_iff.mp hacceptable).2 r hstart
    · exact conflicts_rawRow hdistinct hother hincoming fun heq => hmem (heq ▸ hr)
  obtain ⟨stored, hadds⟩ := exists_adds hfree
  have hsub : eventsOf fence.tenantId base.id stored ⊆ runLog codec fence start base.id events := by
    intro event hevent
    obtain ⟨hevent, hrun⟩ := mem_filter.mp hevent
    rw [hadds.events, List.mem_append, List.mem_singleton] at hevent
    rcases hevent with hevent | rfl
    · exact h.eventsOf_subset (mem_filter.mpr ⟨hevent, hrun⟩)
    · exact mem_runLog.mpr (.inr ⟨incoming, hincoming, hacceptable, rfl⟩)
  have hrunId := hruns incoming hincoming
  have hauthorized' : Authorized fence expiresAt db := by
    simpa [Authorized, workerSessionRow, h.authority.1, h.authority.2] using hauthorized
  obtain ⟨outcome, s', hcommits⟩ : ∃ outcome s',
      Commits (ingestRunEvent codec fence incoming) (request.session db) outcome s' := by
    have hmirrors : Mirrors fence incoming.runId db (.ofRow row order) := hrunId ▸ h.mirrors
    have hfound := (runProjectionRow_eq_some_iff.mp h.run).1
    exact commits_ingestRunEvent hundisturbed.1 hauthorized' hundisturbed.2
      (acceptable_iff.mp hacceptable).1 hadds hmirrors (hrunId ▸ h.booked) (hrunId ▸ hfound)
      h.continues (hrunId ▸ fun event hevent => htime event (hsub hevent))
      (hrunId ▸ h.room hruns hdistinct hroom hsub)
  obtain ⟨-, stored', run, more, run', hingests⟩ := ingestRunEvent_spec hcommits
  have hnext : (ledger codec).next db request = s'.db := by
    change (perform codec db request).1 = s'.db
    have hcommits' : Commits (request.call.transaction codec) (request.session db)
        (.ingested outcome) s' := by
      rw [hcall]
      exact Lib.commits_map.mpr ⟨outcome, hcommits, rfl⟩
    unfold perform
    rw [Lib.atomically_of_commits hcommits']
  rw [hnext, hingests.drains.rawRunEvents]
  rcases hingests.stores with hadds' | ⟨⟨r, hr, hconflicts⟩, -, -⟩
  · rw [hadds'.events]
    simp
  · have := hfree r hr
    simp [this] at hconflicts

/-- **Run lemma.** After any deliveries of the events the account holds, and an event
    that was delivered undisturbed is stored. -/
theorem of_run {requests : List Request}
    (honly : ∀ request ∈ requests, ∃ incoming ∈ events, request.call = .ingest fence incoming) :
    (∃ row' applied', Delivered codec fence start base order events
      ((ledger codec).run db requests) row' applied') ∧
    db.rawRunEvents.rows ⊆ ((ledger codec).run db requests).rawRunEvents.rows ∧
    ∀ incoming ∈ events, acceptable codec fence start incoming →
      (∃ request ∈ requests, request.call = .ingest fence incoming ∧
        request.Undisturbed expiresAt) →
      rawRow codec fence incoming ∈ ((ledger codec).run db requests).rawRunEvents.rows := by
  induction requests generalizing db row applied with
  | nil => exact ⟨⟨row, applied, h⟩, List.Subset.refl _, by simp⟩
  | cons first requests ih =>
    obtain ⟨incoming, hincoming, hcall⟩ := honly first List.mem_cons_self
    obtain ⟨row₁, applied₁, h₁⟩ := h.of_next hruns hincoming hcall
    obtain ⟨hdelivered, hsub, hstored⟩ :=
      ih h₁ fun request hrequest => honly request (List.mem_cons_of_mem _ hrequest)
    refine ⟨hdelivered, List.Subset.trans (rawRunEvents_subset_next codec db first) hsub, ?_⟩
    rintro other hother hacceptable ⟨request, hrequest, hcall', hundisturbed⟩
    rcases List.mem_cons.mp hrequest with rfl | hrequest
    · exact hsub (h.mem_next hruns hdistinct hroom hauthorized htime hother hcall' hundisturbed
        hacceptable)
    · exact hstored other hother hacceptable ⟨request, hrequest, hcall', hundisturbed⟩

end Delivered

/-- The part that is folded is the longest: no event of the log follows it. -/
theorem foldRunLog_settled (codec : Codec) (fence : WorkerSessionFence) (start : Db) (base : RunRow)
    (order : WorkOrder) (events : List IncomingRunEvent) :
    (projection codec fence base.id).Settled
      (Replay.logOf sequence (runLog codec fence start base.id events))
      (foldRunLog codec fence start base order events).2 :=
  Replay.settled_contiguous (Replay.length_pending_le _)

/-- A run of which nothing is stored yet is ready. -/
theorem Ready.of_fresh (hauthorized : Authorized fence expiresAt db)
    (hrun : runProjectionRow fence.tenantId base.id db = some (base, order))
    (hbound : isBound fence base) (hauthoritative : base.authoritative)
    (hevents : eventsOf fence.tenantId base.id db = [])
    (happlications : ∀ a ∈ db.runEventApplications.rows,
      ¬ (a.tenantId = fence.tenantId ∧ a.runId = base.id)) :
    Ready codec fence expiresAt db base order where
  authorized := hauthorized
  run := hrun
  bound := hbound
  authoritative := hauthoritative
  booked :=
    { versions := fun a ha htenant hrunId => absurd ⟨htenant, hrunId⟩ (happlications a ha)
      unapplied := fun event hevent hofRun => by
        have hmem : event ∈ eventsOf fence.tenantId base.id db := mem_filter.mpr ⟨hevent, hofRun⟩
        simp [hevents] at hmem }
  settled := by
    simp [Replay.Settled, Replay.next, storedLog, hevents, Replay.logOf]

/-! ## Confluence -/

/-- Since `start`, the events of `result` were applied to the run, which stands where
    they take it. -/
structure StandsAt (fence : WorkerSessionFence) (start : Db) (base : RunRow)
    (result : List RawRunEvent × LockedRun) (db : Db) : Prop where
  run : ∃ row, db.runs.find? base.id = some row ∧ row.state = result.2.state ∧
    row.lastEventCursor = result.2.lastEventCursor ∧
    row.lastEventSequence = result.2.lastEventSequence ∧
    row.aggregateVersion = result.2.aggregateVersion
  applied : ∀ id, eventIsApplied fence.tenantId base.id id db ↔
    eventIsApplied fence.tenantId base.id id start ∨ ∃ event ∈ result.1, event.id = id

theorem Delivered.standsAt (h : Delivered codec fence start base order events db row applied) :
    StandsAt fence start base (applied, .ofRow row order) db where
  run := ⟨row, (runProjectionRow_eq_some_iff.mp h.run).1, rfl, rfl, rfl, rfl⟩
  applied id := by
    have hofRun : ∀ event ∈ applied, event.tenantId = fence.tenantId ∧ event.runId = base.id := by
      intro event hevent
      obtain ⟨sequence, -, -, hlog⟩ := h.replayed.mem hevent
      obtain ⟨-, htenant, hrun, -⟩ := mem_storedLog hlog
      exact ⟨htenant, hrun⟩
    simp only [eventIsApplied, h.applications, List.any_append, Bool.or_eq_true]
    refine or_congr_right ?_
    simp only [List.any_map, List.any_eq_true, Function.comp_apply, applicationFor,
      Bool.and_eq_true, beq_iff_eq]
    exact exists_congr fun event => and_congr_right fun hevent => by simp [hofRun event hevent]

/-- Take a live session and its authoritative run, and events that share no identity.
    If none of them ends the run before its adoption and the counters have room, then any
    deliveries, in any order and with any repetitions, leave the run where folding the
    events that follow one another takes it. -/
theorem deliveries_confluent (codec : Codec) (fence : WorkerSessionFence) (expiresAt : Timestamptz)
    (start : Db) (base : RunRow) (order : WorkOrder) (events : List IncomingRunEvent)
    (hstart : Ready codec fence expiresAt start base order)
    (hruns : ∀ incoming ∈ events, incoming.runId = base.id) (hdistinct : Distinct events)
    (htime : ∀ event ∈ runLog codec fence start base.id events, InTime base event)
    (hroom : Room (.ofRow base order) (runLog codec fence start base.id events).length)
    (requests : List Request) (hdelivers : Delivers fence expiresAt events requests) :
    StandsAt fence start base (foldRunLog codec fence start base order events)
      ((ledger codec).run start requests) := by
  obtain ⟨⟨row, applied, hdelivered⟩, -, hstored⟩ := Delivered.of_run hstart.delivered hruns
    hdistinct hroom hstart.authorized htime hdelivers.only
  have hlog := hdelivered.storedLog_eq hruns hdistinct fun incoming hincoming hacceptable =>
    hstored incoming hincoming hacceptable (hdelivers.every incoming hincoming)
  -- the deliveries and the fold end where nothing follows, so they are the same replay
  have hsettled := hdelivered.settled
  rw [hlog] at hsettled
  obtain ⟨happlied, hrow⟩ := (hdelivered.replays hruns hdistinct).unique hsettled
    (Replay.replays_contiguous _ _) (foldRunLog_settled codec fence start base order events)
  have hresult : foldRunLog codec fence start base order events = (applied, .ofRow row order) :=
    Prod.ext happlied.symm hrow.symm
  rw [hresult]
  exact hdelivered.standsAt

/-! ## Two events of a run -/

theorem sample_ready : Ready sampleCodec sampleFence 1000 sampleDb sampleRun sampleOrder :=
  .of_fresh
    ⟨by decide +kernel, ⟨.ofNat 2, .ofNat 1, .ofNat 3, 1, .active, 1000⟩,
      ⟨.ofNat 3, .ofNat 1, .ready, 1, 1, by decide⟩, by decide +kernel⟩
    (by decide +kernel) (by decide +kernel) rfl (by decide +kernel)
    (by simp [sampleDb, Indexed.empty])

/-- The run starts, and ends at `micros`. -/
def sampleEvents : List IncomingRunEvent :=
  [sampleEvent 1 "one" "run.started" 150, sampleEvent 2 "two" "run.failed" micros]

theorem sampleEvents_distinct : Distinct (sampleEvents micros) := by
  refine ⟨?_, ?_, ?_, ?_⟩ <;> simp only [sampleEvents, sampleEvent, List.map_cons, List.map_nil] <;>
    decide +kernel

theorem delivers_of_mem (requests : List IncomingRunEvent)
    (h : ∀ incoming, incoming ∈ requests ↔ incoming ∈ sampleEvents micros) :
    Delivers sampleFence 1000 (sampleEvents micros) (requests.map deliver) where
  only request hrequest := by
    obtain ⟨incoming, hincoming, rfl⟩ := List.mem_map.mp hrequest
    exact ⟨incoming, (h incoming).mp hincoming, rfl⟩
  every incoming hincoming :=
    ⟨deliver incoming, List.mem_map_of_mem ((h incoming).mpr hincoming), rfl, fun _ => rfl,
      by simp [deliver]⟩

/-- The second event comes first, and once more at the end. -/
theorem deliveries_confluent_swapped :
    StandsAt sampleFence sampleDb sampleRun
      (foldRunLog sampleCodec sampleFence sampleDb sampleRun sampleOrder (sampleEvents 180))
      ((ledger sampleCodec).run sampleDb
        (((sampleEvents 180).reverse ++ [sampleEvent 2 "two" "run.failed" 180]).map deliver)) :=
  deliveries_confluent sampleCodec sampleFence 1000 sampleDb sampleRun sampleOrder
    (sampleEvents 180)
    sample_ready (by decide +kernel) (sampleEvents_distinct 180)
    (by
      have hlate : ∀ event ∈
          runLog sampleCodec sampleFence sampleDb sampleRun.id (sampleEvents 180),
          sampleRun.adoptedAt ≤ sampleRun.terminalAt.getD event.occurredAt := by decide +kernel
      exact fun event hevent _ _ _ => hlate event hevent)
    ⟨by decide +kernel, by decide +kernel, by decide +kernel⟩ _
    (delivers_of_mem 180 _ (by intro incoming; simp [sampleEvents]; tauto))

/-- The worker's clock is behind, and the run ends at 50, before its adoption at 100. In the
    order of the sequences the first event is applied and the second is refused. In the other
    order the second is kept for later, and then each delivery of the first fails with it. The
    fold takes both. -/
theorem early_terminal_event_wedges :
    Ready sampleCodec sampleFence 1000 sampleDb sampleRun sampleOrder ∧
      Distinct (sampleEvents 50) ∧
      Delivers sampleFence 1000 (sampleEvents 50) ((sampleEvents 50).map deliver) ∧
      Delivers sampleFence 1000 (sampleEvents 50) ((sampleEvents 50).reverse.map deliver) ∧
      ((ledger sampleCodec).run sampleDb ((sampleEvents 50).map deliver)).runs.rows.map
        (·.lastEventSequence) = [1] ∧
      ((ledger sampleCodec).run sampleDb ((sampleEvents 50).reverse.map deliver)).runs.rows.map
        (·.lastEventSequence) = [0] ∧
      (foldRunLog sampleCodec sampleFence sampleDb sampleRun sampleOrder
        (sampleEvents 50)).2.lastEventSequence = 2 :=
  ⟨sample_ready, sampleEvents_distinct 50, delivers_of_mem 50 _ fun _ => Iff.rfl,
    delivers_of_mem 50 _ fun _ => List.mem_reverse, by decide +kernel, by decide +kernel,
    by decide +kernel⟩

end Asf.RunEvents
