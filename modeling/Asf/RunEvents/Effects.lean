import Asf.Lib.Replay
import Asf.RunEvents.Model

/-!
# What an ingestion does to the tables

`projection` is the abstract reading of the loop: a run takes the stored events
in the order of their sequences, as long as they decode, bind, have the next
aggregate version and make a valid transition.

Results:

* `drainContiguousEvents_spec`: the loop replays the stored events from the run's
  cursor until nothing follows, one `Turn` for each event.
* `ingestRunEvent_spec`: a committed ingestion has stored the event or found it
  stored, and then drained.
* `perform_cases`: what any request can do.
-/

namespace Asf.RunEvents

open Lib
open Prod (mk)
open Option (map_some some)
open Except (ok)

variable {tenantId : Uuid} {sequence : ℤ} {event : RawRunEvent} {now : Timestamptz}

variable {codec : Codec} {fence : WorkerSessionFence} {runId : Uuid} {run run' : LockedRun}
  {row : RawRunEvent} {decoded : DecodedProjection} {db db' : Db}

/-! ## Rows -/

theorem RawRunEvent.ofRun_iff :
    row.ofRun tenantId runId ↔ row.tenantId = tenantId ∧ row.runId = runId := by
  simp [ofRun]

theorem RawRunEvent.conflicts_iff {a b : RawRunEvent} :
    a.conflicts b ↔ a.id = b.id ∨ (a.tenantId = b.tenantId ∧ a.runId = b.runId) ∧
      (a.externalEventId = b.externalEventId ∨ a.cursor = b.cursor ∨ a.sequence = b.sequence) := by
  simp only [conflicts, ofRun, Bool.or_eq_true, Bool.and_eq_true, beq_iff_eq, or_assoc]
  rw [@eq_comm _ b.tenantId, @eq_comm _ b.runId]

theorem RunEventApplication.names_iff {a : RunEventApplication} :
    a.names row ↔ (row.tenantId = a.tenantId ∧ row.runId = a.runId) ∧ row.id = a.runEventId ∧
      row.runAggregateVersion = a.runAggregateVersion := by
  simp [names, RawRunEvent.ofRun_iff, and_assoc]

/-! ## The abstract projection -/

/-- The run after an event that follows it. -/
def follow (codec : Codec) (fence : WorkerSessionFence) (runId : Uuid) (run : LockedRun)
    (row : RawRunEvent) : Option LockedRun :=
  match decodeProjection codec fence runId run row with
  | .error _ => none
  | .ok decoded =>
    if decoded.aggregateVersion = run.aggregateVersion + 1 then
      some { run with
        state := decoded.state
        lastEventCursor := some row.cursor
        lastEventSequence := run.lastEventSequence + 1
        aggregateVersion := run.aggregateVersion + 1 }
    else none

theorem follow_eq_some_iff :
    follow codec fence runId run row = some run' ↔
      ∃ decoded, decodeProjection codec fence runId run row = .ok decoded ∧
        decoded.aggregateVersion = run.aggregateVersion + 1 ∧
        run' = { run with
          state := decoded.state
          lastEventCursor := some row.cursor
          lastEventSequence := run.lastEventSequence + 1
          aggregateVersion := run.aggregateVersion + 1 } := by
  unfold follow
  cases decodeProjection codec fence runId run row with
  | error block => simp
  | ok decoded => simp [eq_comm]

/-- A run takes its events in the order of their sequences. -/
def projection (codec : Codec) (fence : WorkerSessionFence) (runId : Uuid) :
    Replay LockedRun RawRunEvent where
  expects run := run.lastEventSequence + 1
  apply := follow codec fence runId
  expects_apply h := by
    obtain ⟨_, -, -, rfl⟩ := follow_eq_some_iff.mp h
    rfl

/-- The stored events of a run. -/
def eventsOf (tenantId runId : Uuid) (db : Db) : List RawRunEvent :=
  db.rawRunEvents.rows.filter (RawRunEvent.ofRun tenantId runId)

/-- The stored events of a run by their sequence. -/
def storedLog (tenantId runId : Uuid) (db : Db) : ℤ → Option RawRunEvent :=
  Replay.logOf RawRunEvent.sequence (eventsOf tenantId runId db)

theorem storedLog_congr (h : db'.rawRunEvents = db.rawRunEvents) :
    storedLog tenantId runId db' = storedLog tenantId runId db := by
  simp [storedLog, eventsOf, h]

/-! ## One turn -/

theorem checkedSucc_eq_some_iff {value next : ℤ} :
    checkedSucc value = some next ↔ value < i64Max ∧ next = value + 1 := by
  unfold checkedSucc
  split_ifs with h <;> simp [h, eq_comm]

/-- The event has no application. -/
def Unapplied (db : Db) (row : RawRunEvent) : Prop :=
  ∀ a ∈ db.runEventApplications.rows, ¬ (a.tenantId = row.tenantId ∧ a.runEventId = row.id)

theorem nextRawEvent_eq (tenantId runId : Uuid) (sequence : ℤ) (db : Db) :
    nextRawEvent tenantId runId sequence db =
      (storedLog tenantId runId db sequence).map fun row =>
        (row, db.runEventApplications.rows.find? fun a =>
          a.tenantId == row.tenantId && a.runEventId == row.id) := by
  unfold nextRawEvent storedLog Replay.logOf eventsOf
  rw [List.find?_filter]
  congr 2
  funext event
  simp only [Bool.decide_and, Bool.decide_eq_true]
  rfl

theorem nextRawEvent_eq_some_none_iff :
    nextRawEvent tenantId runId sequence db = some (row, none) ↔
      storedLog tenantId runId db sequence = some row ∧ Unapplied db row := by
  rw [nextRawEvent_eq]
  cases storedLog tenantId runId db sequence with
  | none => simp
  | some row₀ =>
    simp only [map_some, some.injEq, mk.injEq, List.find?_eq_none]
    constructor
    · rintro ⟨rfl, h⟩
      exact ⟨rfl, fun a ha => by simpa using h a ha⟩
    · rintro ⟨rfl, h⟩
      exact ⟨rfl, fun a ha => by simpa using h a ha⟩

/-- The loop goes on with the next event exactly when there is one that follows. -/
theorem nextProjection_eq_event_iff :
    nextProjection codec fence runId run db = .ok (.ok (row, decoded)) ↔
      (run.lastEventSequence < i64Max ∧ run.aggregateVersion < i64Max) ∧
        storedLog fence.tenantId runId db (run.lastEventSequence + 1) = some row ∧
        Unapplied db row ∧ decodeProjection codec fence runId run row = .ok decoded ∧
        decoded.aggregateVersion = run.aggregateVersion + 1 := by
  unfold nextProjection
  rw [bind_eq_ok_iff]
  simp only [okOr_eq_ok_iff, checkedSucc_eq_some_iff]
  constructor
  · rintro ⟨_, ⟨hsequence, rfl⟩, h⟩
    split at h
    · simp at h
    · simp at h
    · rename_i row₀ hnext
      obtain ⟨hlog, hunapplied⟩ := nextRawEvent_eq_some_none_iff.mp hnext
      split at h
      · simp at h
      · rename_i decoded₀ hdecoded
        rw [bind_eq_ok_iff] at h
        simp only [okOr_eq_ok_iff, checkedSucc_eq_some_iff] at h
        obtain ⟨_, ⟨haggregate, rfl⟩, h⟩ := h
        split_ifs at h with hversion
        · simp at h
        · obtain ⟨rfl, rfl⟩ : row₀ = row ∧ decoded₀ = decoded := by simpa using h
          exact ⟨⟨hsequence, haggregate⟩, hlog, hunapplied, hdecoded, not_not.mp hversion⟩
  · rintro ⟨⟨hsequence, haggregate⟩, hlog, hunapplied, hdecoded, hversion⟩
    refine ⟨_, ⟨hsequence, rfl⟩, ?_⟩
    rw [nextRawEvent_eq_some_none_iff.mpr ⟨hlog, hunapplied⟩]
    simp only [hdecoded]
    rw [bind_eq_ok_iff]
    refine ⟨_, okOr_eq_ok_iff.mpr (checkedSucc_eq_some_iff.mpr ⟨haggregate, rfl⟩), ?_⟩
    rw [if_neg (not_not.mpr hversion)]

/-- A block ends the loop where nothing follows. -/
theorem settled_of_nextProjection {block : RunEventProjectionBlock}
    (h : nextProjection codec fence runId run db = .ok (.error block)) :
    (projection codec fence runId).Settled (storedLog fence.tenantId runId db) run := by
  unfold Replay.Settled
  cases hnext : (projection codec fence runId).next (storedLog fence.tenantId runId db) run with
  | none => rfl
  | some r =>
    obtain ⟨hlog, hfollow⟩ := Replay.next_eq_some_iff.mp hnext
    obtain ⟨decoded, hdecoded, hversion, -⟩ := follow_eq_some_iff.mp hfollow
    -- an event that follows leaves no way for the turn to block
    unfold nextProjection at h
    rw [bind_eq_ok_iff] at h
    simp only [okOr_eq_ok_iff, checkedSucc_eq_some_iff, nextRawEvent_eq] at h
    obtain ⟨_, ⟨-, rfl⟩, h⟩ := h
    rw [show storedLog fence.tenantId runId db (run.lastEventSequence + 1) = some r.1 from hlog,
      map_some] at h
    split at h
    · cases ‹some _ = none›
    · simp at h
    · rename_i heq
      obtain ⟨rfl, -⟩ := mk.inj (some.inj heq)
      rw [hdecoded] at h
      simp only [bind_eq_ok_iff, okOr_eq_ok_iff, checkedSucc_eq_some_iff] at h
      obtain ⟨_, ⟨-, rfl⟩, h⟩ := h
      simp [hversion] at h

/-- `new` is the run's row after an event that brought the run to `run`. -/
def Projects (old : RunRow) (event : RawRunEvent) (run : LockedRun) (new : RunRow) : Prop :=
  ∃ observedAt, new.toRun = { old.toRun with
    state := run.state
    lastEventCursor := run.lastEventCursor
    lastEventSequence := run.lastEventSequence
    aggregateVersion := run.aggregateVersion
    lastObservedAt := observedAt
    terminalAt := terminalAfter run.state old.terminalAt event.occurredAt }

/-- The application that a stored event gets. -/
def applicationFor (event : RawRunEvent) : RunEventApplication :=
  ⟨event.tenantId, event.id, event.runId, event.runAggregateVersion⟩

/-- One turn of the loop that applies an event. -/
structure Turn (codec : Codec) (fence : WorkerSessionFence) (runId : Uuid) (db : Db)
    (run : LockedRun) (event : RawRunEvent) (db' : Db) (run' : LockedRun) : Prop where
  found : storedLog fence.tenantId runId db (run.lastEventSequence + 1) = some event
  unapplied : Unapplied db event
  follows : follow codec fence runId run event = some run'
  authority : db'.workers = db.workers ∧ db'.workerSessions = db.workerSessions
  workOrders : db'.workOrders = db.workOrders
  events : db'.rawRunEvents = db.rawRunEvents
  applications :
    db'.runEventApplications.rows = db.runEventApplications.rows ++ [applicationFor event]
  runs : ∃ old new, db.runs.find? runId = some old ∧ isUnchanged fence run old ∧
    Projects old event run' new ∧ db'.runs = db.runs.set new

section

variable (h : Turn codec fence runId db run event db' run')

include h

theorem Turn.next :
    (projection codec fence runId).next (storedLog fence.tenantId runId db) run =
      some (event, run') :=
  Replay.next_eq_some_iff.mpr ⟨h.found, h.follows⟩

theorem Turn.eventsOf_eq : eventsOf tenantId runId db' = eventsOf tenantId runId db := by
  simp [eventsOf, h.events]

end

theorem projectedRow_eq_ok {old new : RunRow}
    (h : projectedRow now sequence row decoded old = .ok new) :
    new.toRun = { old.toRun with
      state := decoded.state
      lastEventCursor := some row.cursor
      lastEventSequence := sequence
      aggregateVersion := decoded.aggregateVersion
      lastObservedAt := now
      terminalAt := terminalAfter decoded.state old.terminalAt row.occurredAt } := by
  unfold projectedRow at h
  split_ifs at h
  exact congrArg RunRow.toRun (ok.inj h).symm

/-- What decodes makes a valid transition to the version of its row. -/
theorem decodeProjection_eq_ok (h : decodeProjection codec fence runId run row = .ok decoded) :
    projectState run.state row.eventType = .ok decoded.state ∧
      decoded.aggregateVersion = row.runAggregateVersion := by
  unfold decodeProjection at h
  split_ifs at h
  split at h
  · cases h
  · split_ifs at h
    obtain ⟨state, hstate, rfl⟩ := map_eq_ok_iff.mp h
    exact ⟨hstate, rfl⟩

theorem mem_storedLog (h : storedLog tenantId runId db sequence = some row) :
    row ∈ db.rawRunEvents.rows ∧ row.tenantId = tenantId ∧ row.runId = runId ∧
      row.sequence = sequence := by
  obtain ⟨hmem, hsequence⟩ := Replay.mem_of_logOf h
  obtain ⟨hmem, hrun⟩ := List.mem_filter.mp hmem
  obtain ⟨htenant, hrun⟩ := RawRunEvent.ofRun_iff.mp hrun
  exact ⟨hmem, htenant, hrun, hsequence⟩

theorem insertEventApplication_eq_ok {application : RunEventApplication}
    (h : insertEventApplication application db = .ok (true, db')) :
    db'.runEventApplications.rows = db.runEventApplications.rows ++ [application] ∧
      db'.workers = db.workers ∧ db'.workerSessions = db.workerSessions ∧
      db'.workOrders = db.workOrders ∧ db'.rawRunEvents = db.rawRunEvents ∧
      db'.runs = db.runs := by
  unfold insertEventApplication at h
  split at h
  · simp at h
  · split at h
    · cases h
    · rename_i applications hinsert
      split_ifs at h
      obtain rfl := (mk.inj (ok.inj h)).2
      exact ⟨(Indexed.insert?_eq_some_iff.mp hinsert).2, rfl, rfl, rfl, rfl, rfl⟩

theorem runProjectionRow_eq_some_iff {old : RunRow} {order : WorkOrder} :
    runProjectionRow tenantId runId db = some (old, order) ↔
      db.runs.find? runId = some old ∧ db.workOrders.find? old.workOrderId = some order ∧
        old.tenantId = tenantId ∧ order.tenantId = old.tenantId := by
  unfold runProjectionRow
  cases db.runs.find? runId with
  | none => simp
  | some old₀ =>
    cases horder : db.workOrders.find? old₀.workOrderId with
    | none =>
      simp only [Option.bind_eq_bind, Option.bind_some, horder, Option.bind_none, reduceCtorEq,
        some.injEq, false_iff, not_and]
      rintro rfl hsome
      cases horder.symm.trans hsome
    | some order₀ =>
      simp only [Option.bind_eq_bind, Option.bind_some, horder]
      constructor
      · intro h
        split_ifs at h with htenant
        obtain ⟨rfl, rfl⟩ := mk.inj (some.inj h)
        exact ⟨rfl, horder, htenant⟩
      · rintro ⟨hold, horder', htenant⟩
        obtain rfl := some.inj hold
        obtain rfl := some.inj (horder.symm.trans horder')
        rw [if_pos htenant]

/-- `run` is what the tables say about the run, which is the authoritative one and
    bound to the session. -/
def Mirrors (fence : WorkerSessionFence) (runId : Uuid) (db : Db) (run : LockedRun) : Prop :=
  ∃ row order, runProjectionRow fence.tenantId runId db = some (row, order) ∧ isBound fence row ∧
    row.authoritative ∧ run = .ofRow row order

/-- The next run keeps what binds it. -/
theorem Turn.mirrors (h : Turn codec fence runId db run event db' run')
    (hm : Mirrors fence runId db run) : Mirrors fence runId db' run' := by
  obtain ⟨row, order, hrow, hbound, hauthoritative, rfl⟩ := hm
  obtain ⟨hold, horder, htenant, horderTenant⟩ := runProjectionRow_eq_some_iff.mp hrow
  obtain ⟨old, new, hold', -, ⟨_, hcolumns⟩, hruns⟩ := h.runs
  obtain rfl := some.inj (hold.symm.trans hold')
  obtain rfl : row.id = runId := (Table.find?_eq_some_iff.mp hold).2
  have hid : new.id = row.id := by rw [hcolumns]
  have hfind : db'.runs.find? row.id = some new := by
    rw [hruns, ← hid]
    exact Table.find?_set_self (hid ▸ hold)
  have hworkOrder : new.workOrderId = row.workOrderId := by rw [hcolumns]
  have htenant' : new.tenantId = row.tenantId := by rw [hcolumns]
  refine ⟨new, order, runProjectionRow_eq_some_iff.mpr ⟨hfind, ?_, htenant'.trans htenant, ?_⟩,
    ?_, by rw [hcolumns]; exact hauthoritative, ?_⟩
  · rw [h.workOrders, hworkOrder, horder]
  · rw [horderTenant, htenant']
  · have hworker : new.workerId = row.workerId := by rw [hcolumns]
    have hgeneration : new.workerGeneration = row.workerGeneration := by rw [hcolumns]
    have hsession : new.workerSessionId = row.workerSessionId := by rw [hcolumns]
    simpa [isBound, hworker, hgeneration, hsession] using hbound
  · obtain ⟨_, -, -, rfl⟩ := follow_eq_some_iff.mp h.follows
    simp [LockedRun.ofRow, hcolumns]

theorem updateRunProjection_eq_ok_iff {updated : RunRow} :
    updateRunProjection fence runId run now row decoded db = .ok (some updated, db') ↔
      ∃ old, db.runs.find? runId = some old ∧ isUnchanged fence run old ∧
        projectedRow now (run.lastEventSequence + 1) row decoded old = .ok updated ∧
        db' = db.withRuns (db.runs.set updated) := by
  unfold updateRunProjection
  rw [map_eq_ok_iff]
  constructor
  · rintro ⟨⟨found, runs⟩, hone, hr⟩
    obtain ⟨rfl, rfl⟩ := mk.inj hr
    obtain ⟨old, hold, hguard, hprojected, rfl⟩ := Table.updateOne_eq_some_iff.mp hone
    exact ⟨old, hold, hguard, hprojected, rfl⟩
  · rintro ⟨old, hold, hguard, hprojected, rfl⟩
    exact ⟨(some updated, db.runs.set updated),
      Table.updateOne_eq_some_iff.mpr ⟨old, hold, hguard, hprojected, rfl⟩, rfl⟩

/-- What a turn that committed has done. -/
theorem applyRunEvent_spec
    (hnext : nextProjection codec fence runId run s.db = .ok (.ok (row, decoded)))
    (h : Commits (applyRunEvent fence runId run row decoded) s run' s') :
    Turn codec fence runId s.db run row s'.db run' := by
  obtain ⟨-, hlog, hunapplied, hdecoded, hversion⟩ := nextProjection_eq_event_iff.mp hnext
  obtain ⟨-, htenant, hrun, hsequence⟩ := mem_storedLog hlog
  unfold applyRunEvent at h
  simp only [commits_clockTimestamp_bind, commits_execute_bind, commits_orFail_bind,
    commits_reject_bind, commits_pure, Bool.not_eq_true] at h
  obtain ⟨-, found, db₁, hupdate, updated, rfl, -, recorded, db₂, hinsert, hrecorded, rfl, rfl⟩ := h
  obtain rfl : recorded = true := by simpa using hrecorded
  obtain ⟨happlications, hworkers, hsessions, horders, hevents, hruns⟩ :=
    insertEventApplication_eq_ok hinsert
  obtain ⟨old, hold, hguard, hprojected, rfl⟩ := updateRunProjection_eq_ok_iff.mp hupdate
  have hcolumns := projectedRow_eq_ok hprojected
  have hfollow : follow codec fence runId run row = some { run with
      state := updated.state
      lastEventCursor := updated.lastEventCursor
      lastEventSequence := updated.lastEventSequence
      aggregateVersion := updated.aggregateVersion } := by
    refine follow_eq_some_iff.mpr ⟨decoded, hdecoded, hversion, ?_⟩
    simp [hcolumns, hversion]
  refine ⟨hlog, hunapplied, hfollow, ⟨hworkers, hsessions⟩, horders, hevents, ?_, old, updated,
    hold, hguard, ⟨s.tick.now, ?_⟩, hruns⟩
  · have happlication : applicationOf fence runId row decoded = applicationFor row := by
      simp [applicationOf, applicationFor, htenant, hrun, (decodeProjection_eq_ok hdecoded).2]
    rw [happlication] at happlications
    exact happlications
  · simp [hcolumns]

/-! ## The loop -/

/-- The turns of one drain. -/
inductive Drains (codec : Codec) (fence : WorkerSessionFence) (runId : Uuid) :
    Db → LockedRun → List RawRunEvent → Db → LockedRun → Prop
  | nil (db : Db) (run : LockedRun) : Drains codec fence runId db run [] db run
  | cons {db db₁ db' : Db} {run run₁ run' : LockedRun} {event : RawRunEvent}
      {events : List RawRunEvent} (turn : Turn codec fence runId db run event db₁ run₁)
      (rest : Drains codec fence runId db₁ run₁ events db' run') :
      Drains codec fence runId db run (event :: events) db' run'

theorem drainLoop_spec {fuel appliedCount : ℕ} {outcome : DrainOutcome}
    (h : Commits (drainLoop codec fence runId fuel run appliedCount) s (run', outcome) s') :
    ∃ events, Drains codec fence runId s.db run events s'.db run' ∧
      (projection codec fence runId).Settled (storedLog fence.tenantId runId s'.db) run' ∧
      outcome.appliedCount = appliedCount + events.length := by
  induction fuel generalizing run appliedCount s with
  | zero => exact absurd h commits_throw
  | succ fuel ih =>
    unfold drainLoop at h
    simp only [commits_select_bind, commits_ofExcept_bind] at h
    obtain ⟨turn, hnext, h⟩ := h
    cases turn with
    | error block =>
      obtain ⟨hr, rfl⟩ := commits_pure.mp h
      obtain ⟨rfl, rfl⟩ := mk.inj hr
      exact ⟨[], .nil _ _, settled_of_nextProjection hnext, rfl⟩
    | ok r =>
      obtain ⟨row, decoded⟩ := r
      simp only [commits_bind, commits_ofExcept] at h
      obtain ⟨run₁, s₁, happly, count, s₂, ⟨hcount, rfl⟩, h⟩ := h
      obtain ⟨events, hdrains, hsettled, hlength⟩ := ih h
      refine ⟨row :: events, .cons (applyRunEvent_spec hnext happly) hdrains, hsettled, ?_⟩
      unfold countSucc at hcount
      split_ifs at hcount
      have := ok.inj hcount
      simp only [List.length_cons]
      omega

/-- The loop replays the stored events until nothing follows. -/
theorem drainContiguousEvents_spec {outcome : DrainOutcome}
    (h : Commits (drainContiguousEvents codec fence runId run) s (run', outcome) s') :
    ∃ events, Drains codec fence runId s.db run events s'.db run' ∧
      (projection codec fence runId).Settled (storedLog fence.tenantId runId s'.db) run' ∧
      outcome.appliedCount = events.length := by
  unfold drainContiguousEvents at h
  rw [commits_select_bind] at h
  obtain ⟨events, hdrains, hsettled, hlength⟩ := drainLoop_spec h
  exact ⟨events, hdrains, hsettled, by simpa using hlength⟩

namespace Drains

variable {events : List RawRunEvent}

section

variable (h : Drains codec fence runId db run events db' run')

include h

theorem rawRunEvents : db'.rawRunEvents = db.rawRunEvents := by
  induction h with
  | nil => rfl
  | cons turn _ ih => exact ih.trans turn.events

theorem mirrors (hm : Mirrors fence runId db run) : Mirrors fence runId db' run' := by
  induction h with
  | nil => exact hm
  | cons turn _ ih => exact ih (turn.mirrors hm)

theorem applications :
    db'.runEventApplications.rows = db.runEventApplications.rows ++ events.map applicationFor := by
  induction h with
  | nil => simp
  | cons turn _ ih => rw [ih, turn.applications, List.append_assoc]; rfl

theorem authority :
    db'.workers = db.workers ∧ db'.workerSessions = db.workerSessions ∧
      db'.workOrders = db.workOrders := by
  induction h with
  | nil => exact ⟨rfl, rfl, rfl⟩
  | cons turn _ ih =>
    exact ⟨ih.1.trans turn.authority.1, ih.2.1.trans turn.authority.2, ih.2.2.trans turn.workOrders⟩

/-- The loop refines the abstract replay. -/
theorem replays :
    (projection codec fence runId).Replays (storedLog fence.tenantId runId db) run events run' := by
  induction h with
  | nil => exact .nil _
  | cons turn rest ih =>
    rw [storedLog_congr turn.events] at ih
    exact .cons turn.next ih

end

end Drains

/-! ## Ingestion -/

variable {incoming : IncomingRunEvent} {s s' : Session Db} {stored : Db} {id : Uuid}

/-- The session is open at that time. -/
def SessionOpen (fence : WorkerSessionFence) (now : Timestamptz) (db : Db) : Prop :=
  ∃ session worker, workerSessionRow fence db = some (session, worker) ∧
    session.workerGeneration = fence.generation ∧ worker.generation = fence.generation ∧
    session.status = .active ∧ now < session.expiresAt

theorem commits_lockWorkerAndRun :
    Commits (lockWorkerAndRun fence runId) s run s' ↔
      s' = s.tick ∧ SessionOpen fence s.tick.now s.db ∧ Mirrors fence runId s.db run := by
  rw [and_comm, lockWorkerAndRun]
  simp only [commits_clockTimestamp_bind, commits_select_bind, commits_orFail_bind,
    commits_reject_bind, commits_pure, Session.tick_db, not_or, not_not, Bool.not_eq_true',
    Bool.not_eq_false, not_le, Prod.exists, SessionOpen, Mirrors, ← and_assoc, exists_and_right]

/-- `db'` is `db` with one more raw event. -/
structure Adds (db : Db) (event : RawRunEvent) (db' : Db) : Prop where
  free : ∀ row ∈ db.rawRunEvents.rows, row.conflicts event = false
  events : db'.rawRunEvents.rows = db.rawRunEvents.rows ++ [event]
  runs : db'.runs = db.runs
  workOrders : db'.workOrders = db.workOrders
  authority : db'.workers = db.workers ∧ db'.workerSessions = db.workerSessions
  applications : db'.runEventApplications = db.runEventApplications

theorem insertRawEvent_eq_true_iff : db.insertRawEvent row = (true, db') ↔ Adds db row db' := by
  unfold Db.insertRawEvent
  split
  · rename_i hnone
    simp only [mk.injEq, Bool.false_eq_true, false_and, false_iff]
    intro h
    obtain ⟨r, hr, hconflicts⟩ := Indexed.insert?_eq_none_iff.mp hnone
    exact absurd (h.free r hr) (by simp [hconflicts])
  · rename_i events hsome
    obtain ⟨hfree, hrows⟩ := Indexed.insert?_eq_some_iff.mp hsome
    simp only [mk.injEq, true_and]
    constructor
    · rintro rfl
      exact ⟨hfree, hrows, rfl, rfl, ⟨rfl, rfl⟩, rfl⟩
    · intro h
      have hevents : events = db'.rawRunEvents := Indexed.ext' (hrows.trans h.events.symm)
      cases db'
      simp only [Db.withRawRunEvents, Db.mk.injEq] at *
      exact ⟨h.authority.1.symm, h.authority.2.symm, h.workOrders.symm, h.runs.symm, hevents,
        h.applications.symm⟩

theorem insertRawEvent_eq_false_iff :
    db.insertRawEvent row = (false, db') ↔
      (∃ r ∈ db.rawRunEvents.rows, r.conflicts row) ∧ db' = db := by
  unfold Db.insertRawEvent
  split
  · rename_i hnone
    simp only [mk.injEq, true_and]
    exact ⟨fun h => ⟨Indexed.insert?_eq_none_iff.mp hnone, h.symm⟩, fun h => h.2.symm⟩
  · rename_i events hsome
    obtain ⟨hfree, -⟩ := Indexed.insert?_eq_some_iff.mp hsome
    simp only [mk.injEq, Bool.true_eq_false, false_and, false_iff, not_and]
    rintro ⟨r, hr, hconflicts⟩
    exact absurd (hfree r hr) (by simp [hconflicts])

/-- The event that was stored before says the same. -/
def Repeats (fence : WorkerSessionFence) (incoming : IncomingRunEvent) (db : Db)
    (row : RawRunEvent) : Prop :=
  identityRows fence incoming db = [row] ∧ row.workerSessionId = fence.sessionId ∧
    row.workerId = fence.workerId ∧ row.workerGeneration = fence.generation ∧
    sameContent incoming row

theorem deduplicate_eq_ok_iff :
    deduplicate fence incoming (identityRows fence incoming db) = .ok id ↔
      ∃ row, Repeats fence incoming db row ∧ id = row.id := by
  unfold Repeats deduplicate
  split
  · rename_i row hrows
    rw [failIf_bind_eq_ok_iff]
    simp only [hrows, Bool.not_eq_true', Bool.not_eq_false, Bool.and_eq_true, beq_iff_eq,
      List.cons.injEq, and_true]
    constructor
    · rintro ⟨⟨⟨⟨hsession, hworker⟩, hgeneration⟩, hsame⟩, hid⟩
      exact ⟨row, ⟨rfl, hsession, hworker, hgeneration, hsame⟩, (ok.inj hid).symm⟩
    · rintro ⟨_, ⟨rfl, hsession, hworker, hgeneration, hsame⟩, rfl⟩
      exact ⟨⟨⟨⟨hsession, hworker⟩, hgeneration⟩, hsame⟩, rfl⟩
  · rename_i hnot
    simp only [reduceCtorEq, false_iff, not_exists, not_and]
    rintro row ⟨hrows, -⟩
    exact absurd hrows (hnot row)

/-- The raw event is in the tables: it was added, or it was there. -/
def Stores (codec : Codec) (fence : WorkerSessionFence) (incoming : IncomingRunEvent)
    (db db' : Db) : Prop :=
  Adds db (rawRow codec fence incoming) db' ∨
    (∃ r ∈ db.rawRunEvents.rows, r.conflicts (rawRow codec fence incoming)) ∧
      (∃ row, Repeats fence incoming db row) ∧ db' = db

theorem insertRawEvent_eq_ok_iff {r : Bool × Db} :
    insertRawEvent fence now row db = .ok r ↔
      liveWorkerSession fence now db ∧ db.insertRawEvent row = r := by
  unfold insertRawEvent
  split_ifs with h <;> simp [h]

theorem storeRawEvent_spec {inserted : Bool}
    (h : Commits (storeRawEvent codec fence incoming) s (id, inserted) s') :
    Stores codec fence incoming s.db s'.db ∧ s'.now = s.tick.now := by
  unfold storeRawEvent at h
  simp only [commits_clockTimestamp_bind, commits_execute_bind, insertRawEvent_eq_ok_iff,
    Session.tick_db] at h
  obtain ⟨-, came, db₁, ⟨-, hinsert⟩, h⟩ := h
  cases came with
  | true =>
    obtain ⟨-, rfl⟩ := commits_pure.mp h
    exact ⟨.inl (insertRawEvent_eq_true_iff.mp hinsert), rfl⟩
  | false =>
    obtain ⟨hconflict, rfl⟩ := insertRawEvent_eq_false_iff.mp hinsert
    simp only [Bool.false_eq_true, if_false, commits_select_bind, commits_ofExcept_bind,
      commits_pure, Session.withDb_db] at h
    obtain ⟨id, hid, -, rfl⟩ := h
    obtain ⟨row, hrow, -⟩ := deduplicate_eq_ok_iff.mp hid
    exact ⟨.inr ⟨hconflict, ⟨row, hrow⟩, rfl⟩, rfl⟩

/-- A live session stores an event that is new, or finds one that says the same. -/
theorem commits_storeRawEvent (hverdict : s.verdict "store raw run event" = none)
    (hlive : liveWorkerSession fence s.tick.now s.db) (h : Stores codec fence incoming s.db db') :
    ∃ id inserted, Commits (storeRawEvent codec fence incoming) s (id, inserted)
      (s.tick.withDb db') := by
  unfold storeRawEvent
  simp only [commits_clockTimestamp_bind, commits_execute_bind, insertRawEvent_eq_ok_iff,
    Session.tick_db]
  rcases h with hadds | ⟨hconflict, ⟨row, hrow⟩, rfl⟩
  · exact ⟨incoming.id, true, hverdict, true, db',
      ⟨hlive, insertRawEvent_eq_true_iff.mpr hadds⟩, commits_pure.mpr ⟨rfl, rfl⟩⟩
  · refine ⟨row.id, false, hverdict, false, s.db,
      ⟨hlive, insertRawEvent_eq_false_iff.mpr ⟨hconflict, rfl⟩⟩, ?_⟩
    · simp only [Bool.false_eq_true, if_false, commits_select_bind, commits_ofExcept_bind,
        commits_pure, Session.withDb_db]
      exact ⟨row.id, deduplicate_eq_ok_iff.mpr ⟨row, hrow, rfl⟩, rfl, trivial⟩

section

variable (h : Stores codec fence incoming db stored)

include h

theorem Stores.runs :
    stored.runs = db.runs ∧ stored.workOrders = db.workOrders ∧
      stored.workers = db.workers ∧ stored.workerSessions = db.workerSessions ∧
      stored.runEventApplications = db.runEventApplications := by
  rcases h with h | ⟨-, -, rfl⟩
  · exact ⟨h.runs, h.workOrders, h.authority.1, h.authority.2, h.applications⟩
  · exact ⟨rfl, rfl, rfl, rfl, rfl⟩

theorem Stores.mirrors (hm : Mirrors fence runId db run) : Mirrors fence runId stored run := by
  obtain ⟨hruns, horders, -⟩ := h.runs
  simpa [Mirrors, runProjectionRow, hruns, horders] using hm

end

/-- What an ingestion that committed has done. -/
structure Ingests (codec : Codec) (fence : WorkerSessionFence) (incoming : IncomingRunEvent)
    (db stored db' : Db) (run : LockedRun) (events : List RawRunEvent) (run' : LockedRun) :
    Prop where
  locked : Mirrors fence incoming.runId db run
  stores : Stores codec fence incoming db stored
  drains : Drains codec fence incoming.runId stored run events db' run'
  settled : (projection codec fence incoming.runId).Settled
    (storedLog fence.tenantId incoming.runId db') run'

theorem ingestRunEvent_spec {outcome : RunEventIngestionOutcome}
    (h : Commits (ingestRunEvent codec fence incoming) s outcome s') :
    incoming.validate = .ok () ∧ ∃ stored run events run',
      Ingests codec fence incoming s.db stored s'.db run events run' := by
  unfold ingestRunEvent at h
  simp only [commits_bind, commits_select, commits_ofExcept, commits_pure] at h
  obtain ⟨_, _, ⟨-, rfl⟩, _, _, ⟨hvalid, rfl⟩, run, s₁, hlock, ⟨id, inserted⟩, s₂, hstore,
    ⟨run', drain⟩, s₃, hdrain, _, _, ⟨-, rfl⟩, _, _, ⟨-, rfl⟩, -, rfl⟩ := h
  obtain ⟨rfl, -, hm⟩ := commits_lockWorkerAndRun.mp hlock
  obtain ⟨hstores, -⟩ := storeRawEvent_spec hstore
  obtain ⟨events, hdrains, hsettled, -⟩ := drainContiguousEvents_spec hdrain
  exact ⟨hvalid, s₂.db, run, events, run', hm, hstores, hdrains, hsettled⟩

/-! ## Requests -/

/-- What a request can do: fail and leave the tables alone, ingest an event, or
    replace the workers and their sessions. -/
theorem perform_cases (codec : Codec) (db : Db) (request : Request) :
    (∃ error, perform codec db request = (db, .error error)) ∨
      (∃ fence incoming stored run events run', request.call = .ingest fence incoming ∧
        incoming.validate = .ok () ∧
        Ingests codec fence incoming db stored (perform codec db request).1 run events run') ∨
      ∃ workers workerSessions, request.call = .authority workers workerSessions ∧
        (perform codec db request).1 = { db with workers, workerSessions } := by
  unfold perform
  rcases atomically_cases (request.call.transaction codec) (request.session db) with
    ⟨answer, s', hcommits, hstep⟩ | ⟨error, hstep⟩
  · right
    rw [hstep]
    cases hcall : request.call with
    | ingest fence incoming =>
      rw [hcall] at hcommits
      obtain ⟨outcome, hcommits, -⟩ := commits_map.mp hcommits
      obtain ⟨hvalid, stored, run, events, run', hingests⟩ := ingestRunEvent_spec hcommits
      exact .inl ⟨fence, incoming, stored, run, events, run', rfl, hvalid, hingests⟩
    | authority workers workerSessions =>
      rw [hcall] at hcommits
      obtain ⟨_, hcommits, -⟩ := commits_map.mp hcommits
      obtain ⟨-, _, hdb, rfl⟩ := commits_execute.mp hcommits
      exact .inr ⟨workers, workerSessions, rfl, (mk.inj (ok.inj hdb)).2.symm⟩
  · left
    exact ⟨error, by rw [hstep]; rfl⟩

end Asf.RunEvents
