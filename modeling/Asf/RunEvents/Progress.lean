import Asf.RunEvents.Safety

/-!
# When a delivery succeeds

A delivery can fail on the way, and then nothing of it stays, the raw event
included. The `CHECK` on `runs.terminal_at` is the one that an event can run
into by what it says: it rejects an event that ends the run before the run was
adopted (`InTime`).

Results:

* `Booked.of_turn`, `Continues.of_turn`: what a turn keeps of the bookkeeping and
  of the row of a run.
* `commits_drainLoop`: a drain over events that are in time commits.
* `commits_ingestRunEvent`: so does the delivery of a new event.
-/

namespace Asf.RunEvents

open Lib
open RunEventApplication (names_iff sameKey)

variable {codec : Codec} {fence : WorkerSessionFence} {runId : Uuid} {run run' : LockedRun}
  {event : RawRunEvent} {decoded : DecodedProjection} {db db' : Db} {base row : RunRow}
  {s : Session Db} {eventType : String}

/-! ## What the bookkeeping of a run allows -/

/-- The applications of a run are not ahead of it. -/
structure Booked (tenantId runId : Uuid) (db : Db) (run : LockedRun) : Prop where
  versions : ∀ a ∈ db.runEventApplications.rows, a.tenantId = tenantId → a.runId = runId →
    a.runAggregateVersion ≤ run.aggregateVersion
  unapplied : ∀ event ∈ db.rawRunEvents.rows, event.ofRun tenantId runId →
    run.lastEventSequence < event.sequence → Unapplied db event

theorem Booked.of_turn (h : Booked fence.tenantId runId db run)
    (turn : Turn codec fence runId db run event db' run') :
    Booked fence.tenantId runId db' run' := by
  obtain ⟨hsequence, hversion⟩ := turn.next_columns
  obtain ⟨hevent, -, -, heventSequence⟩ := mem_storedLog turn.found
  obtain ⟨decoded, hdecoded, hnext, -⟩ := follow_eq_some_iff.mp turn.follows
  constructor
  · intro a ha htenant hrun
    rw [turn.applications, List.mem_append, List.mem_singleton] at ha
    rcases ha with ha | rfl
    · have := h.versions a ha htenant hrun
      omega
    · have := (decodeProjection_eq_ok hdecoded).2
      simp only [applicationFor]
      omega
  · intro other hother hrun hlater a ha
    rw [turn.events] at hother
    rw [turn.applications, List.mem_append, List.mem_singleton] at ha
    rcases ha with ha | rfl
    · exact h.unapplied other hother hrun (by omega) a ha
    · rintro ⟨-, hid⟩
      obtain rfl := event_unique_id hevent hother hid
      omega

/-- A new event has no application, since applications name stored events. -/
theorem Booked.of_adds {tenantId : Uuid} (h : Booked tenantId runId db run)
    (hadds : Adds db event db') : Booked tenantId runId db' run where
  versions := by
    rw [hadds.applications]
    exact h.versions
  unapplied other hother hrun hlater := by
    unfold Unapplied
    rw [hadds.applications]
    rw [hadds.events, List.mem_append, List.mem_singleton] at hother
    rcases hother with hother | rfl
    · exact h.unapplied other hother hrun hlater
    · rintro a ha ⟨-, hid⟩
      obtain ⟨named, hnamed, hnames⟩ := db.applications_named a ha
      obtain ⟨-, hnamedId, -⟩ := names_iff.mp hnames
      have hconflicts : named.conflicts other :=
        RawRunEvent.conflicts_iff.mpr (.inl (hnamedId.trans hid))
      rw [hadds.free named hnamed] at hconflicts
      cases hconflicts

/-! ## The end of a run -/

/-- An event that ends the run, or comes when it has ended, does not say so before
    the run was adopted. -/
def InTime (base : RunRow) (event : RawRunEvent) : Prop :=
  ∀ target, targetState base.state event.eventType = some target → isTerminal target →
    base.adoptedAt ≤ base.terminalAt.getD event.occurredAt

/-- What the later rows of a run have kept of its row `base`. -/
structure Continues (base row : RunRow) : Prop where
  workOrderId : row.workOrderId = base.workOrderId
  adoptedAt : row.adoptedAt = base.adoptedAt
  terminalAt : base.terminalAt.isSome → row.terminalAt = base.terminalAt
  ended : isTerminal row.state → isTerminal base.state ∨ row.terminalAt.isSome
  state : isTerminal base.state → row.state = base.state

theorem Continues.refl (base : RunRow) : Continues base base :=
  ⟨rfl, rfl, fun _ => rfl, .inl, fun _ => rfl⟩

/-- A state that an event type names does not depend on the present one. -/
theorem targetState_of_not_terminal {current other target : RunState}
    (hcurrent : ¬ isTerminal current) (htarget : isTerminal target)
    (h : targetState current eventType = some target) :
    targetState other eventType = some target := by
  unfold targetState at h ⊢
  obtain ⟨named, hnamed, rfl⟩ := Option.map_eq_some_iff.mp h
  cases named with
  | none => exact absurd htarget hcurrent
  | some state => rw [hnamed]; rfl

theorem targetState_of_projectState {current target : RunState}
    (h : projectState current eventType = .ok target) :
    targetState current eventType = some target := by
  unfold projectState at h
  split at h
  · cases h
  · rename_i htarget
    split_ifs at h
    rw [htarget, Except.ok.inj h]

/-- The `CHECK` on `terminal_at` accepts an event that is in time. -/
theorem Continues.terminalCheck (h : Continues base row) (htime : InTime base event)
    {state : RunState} (hstate : projectState row.state event.eventType = .ok state) :
    terminalCheck row.adoptedAt (terminalAfter state row.terminalAt event.occurredAt) := by
  unfold terminalAfter
  split_ifs with hterminal
  · cases hrow : row.terminalAt with
    | some t =>
      have := row.terminal_check
      rw [hrow] at this
      simpa [RunEvents.terminalCheck] using this
    | none =>
      have hbase : base.terminalAt = none := by
        cases hb : base.terminalAt with
        | none => rfl
        | some t => cases hrow.symm.trans ((h.terminalAt (by simp [hb])).trans hb)
      have htarget := targetState_of_projectState hstate
      -- the event asks the run as it was at the start for the same state
      have htarget' : targetState base.state event.eventType = some state := by
        by_cases hended : isTerminal row.state
        · rcases h.ended hended with hbaseEnded | hsome
          · rw [← h.state hbaseEnded]
            exact htarget
          · simp [hrow] at hsome
        · exact targetState_of_not_terminal hended hterminal htarget
      have hle := htime state htarget' hterminal
      rw [hbase, ← h.adoptedAt] at hle
      simpa [RunEvents.terminalCheck] using hle
  · exact row.terminal_check

theorem Continues.of_turn (h : Continues base row)
    (turn : Turn codec fence runId db run event db' run') (hm : Mirrors fence runId db run)
    (hrow : db.runs.find? runId = some row) :
    ∃ new, db'.runs.find? runId = some new ∧ Continues base new := by
  obtain ⟨later, hlater, hmoves⟩ := turn.allLater hm runId row hrow
  obtain ⟨old, new, hold, hnew, -, ⟨_, hcolumns⟩, -⟩ := turn.rows
  obtain rfl := Option.some.inj (hold.symm.trans hrow)
  obtain rfl := Option.some.inj (hnew.symm.trans hlater)
  have hterminalAt : new.terminalAt = terminalAfter run'.state old.terminalAt event.occurredAt := by
    rw [hcolumns]
  have hstate : new.state = run'.state := by rw [hcolumns]
  refine ⟨new, hnew, ?_, ?_, fun hsome => ?_, fun hended => .inr ?_, fun hended => ?_⟩
  · rw [hcolumns]
    exact h.workOrderId
  · rw [hcolumns]
    exact h.adoptedAt
  · obtain ⟨t, ht⟩ := Option.isSome_iff_exists.mp hsome
    rw [hterminalAt, h.terminalAt hsome, ht, terminalAfter]
    simp
  · rw [hterminalAt, terminalAfter, if_pos (hstate ▸ hended)]
    simp
  · have hold := h.state hended
    exact (hmoves.terminal (hold ▸ hended)).trans hold

/-! ## When a drain succeeds -/

theorem RunEventApplication.conflicts_eq_false_iff {a b : RunEventApplication} :
    a.conflicts b = false ↔ ¬ a.sameKey b ∧
      ¬ (a.tenantId = b.tenantId ∧ a.runId = b.runId ∧
        a.runAggregateVersion = b.runAggregateVersion) := by
  simp only [conflicts, Bool.or_eq_false_iff, Bool.not_eq_true, Bool.and_eq_false_imp,
    beq_eq_false_iff_ne, Bool.and_eq_true, beq_iff_eq, not_and, ne_eq]
  tauto

theorem exists_insertEventApplication {application : RunEventApplication}
    (hkey : ∀ a ∈ db.runEventApplications.rows, ¬ a.sameKey application)
    (hversion : ∀ a ∈ db.runEventApplications.rows, ¬ (a.tenantId = application.tenantId ∧
      a.runId = application.runId ∧ a.runAggregateVersion = application.runAggregateVersion))
    (hnamed : ∃ event ∈ db.rawRunEvents.rows, application.names event) :
    ∃ db', insertEventApplication application db = .ok (true, db') := by
  unfold insertEventApplication
  rw [if_neg (by simpa using hkey)]
  split
  · rename_i hnone
    obtain ⟨a, ha, hconflicts⟩ := Indexed.insert?_eq_none_iff.mp hnone
    have hfree := RunEventApplication.conflicts_eq_false_iff.mpr ⟨hkey a ha, hversion a ha⟩
    simp [hfree] at hconflicts
  · rw [dif_pos hnamed]
    exact ⟨_, rfl⟩

/-- The event that follows is applied. -/
theorem commits_applyRunEvent (hverdict : ∀ context, s.verdict context = none)
    (hnext : nextProjection codec fence runId run s.db = .ok (.ok (event, decoded)))
    (hm : Mirrors fence runId s.db run) (hbooked : Booked fence.tenantId runId s.db run)
    (hrow : s.db.runs.find? runId = some row) (hcontinues : Continues base row)
    (htime : InTime base event) :
    ∃ run' s', Commits (applyRunEvent fence runId run event decoded) s run' s' ∧
      s'.verdict = s.verdict := by
  obtain ⟨-, hlog, hunapplied, hdecoded, hversion⟩ := nextProjection_eq_event_iff.mp hnext
  obtain ⟨hevent, htenant, hrun, -⟩ := mem_storedLog hlog
  obtain ⟨hstate, hdecodedVersion⟩ := decodeProjection_eq_ok hdecoded
  obtain ⟨locked, order, hlocked, hbound, hauthoritative, rfl⟩ := hm
  obtain ⟨hfound, -, hlockedTenant, -⟩ := runProjectionRow_eq_some_iff.mp hlocked
  obtain rfl := Option.some.inj (hrow.symm.trans hfound)
  have hcheck := hcontinues.terminalCheck htime hstate
  have hunchanged : isUnchanged fence (.ofRow row order) row := by
    simp [isUnchanged, hlockedTenant, hbound, hauthoritative, LockedRun.ofRow]
  obtain ⟨updated, hupdated⟩ : ∃ updated, projectedRow s.tick.now
      ((LockedRun.ofRow row order).lastEventSequence + 1) event decoded row = .ok updated := by
    unfold projectedRow
    rw [dif_pos hcheck]
    exact ⟨_, rfl⟩
  obtain ⟨db', hinsert⟩ : ∃ db', insertEventApplication (applicationOf fence runId event decoded)
      (s.db.withRuns (s.db.runs.set updated)) = .ok (true, db') := by
    refine exists_insertEventApplication ?_ ?_ ⟨event, hevent, ?_⟩
    · intro a ha hkey
      simp only [sameKey, applicationOf, Bool.and_eq_true, beq_iff_eq] at hkey
      exact hunapplied a ha ⟨hkey.1.trans htenant.symm, hkey.2⟩
    · rintro a ha ⟨haTenant, haRun, haVersion⟩
      have := hbooked.versions a ha haTenant haRun
      simp only [applicationOf] at haVersion
      omega
    · exact names_iff.mpr ⟨⟨htenant, hrun⟩, rfl, hdecodedVersion.symm⟩
  unfold applyRunEvent
  simp only [commits_clockTimestamp_bind, commits_execute_bind, commits_orFail_bind,
    commits_reject_bind, commits_pure, Bool.not_eq_true]
  exact ⟨_, _, ⟨hverdict _, some updated, s.db.withRuns (s.db.runs.set updated),
    updateRunProjection_eq_ok_iff.mpr ⟨row, hrow, hunchanged, hupdated, rfl⟩, updated, rfl,
    hverdict _, true, db', hinsert, rfl, rfl, rfl⟩, rfl⟩

/-- How many stored events a run has still before it. -/
def ahead (codec : Codec) (fence : WorkerSessionFence) (runId : Uuid) (db : Db) (run : LockedRun) :
    ℕ :=
  ((projection codec fence runId).pending RawRunEvent.sequence
    (eventsOf fence.tenantId runId db) run).length

theorem Turn.ahead_lt (h : Turn codec fence runId db run event db' run') :
    ahead codec fence runId db' run' < ahead codec fence runId db run := by
  unfold ahead
  rw [h.eventsOf_eq]
  exact Replay.length_pending_lt h.next

/-- A turn either finds that nothing follows or finds the next event. -/
theorem nextProjection_cases (codec : Codec) (hsequence : run.lastEventSequence < i64Max)
    (hversion : run.aggregateVersion < i64Max) (hbooked : Booked fence.tenantId runId db run) :
    (∃ block, nextProjection codec fence runId run db = .ok (.error block)) ∨
      ∃ event decoded, nextProjection codec fence runId run db = .ok (.ok (event, decoded)) := by
  have hexpected : checkedSucc run.lastEventSequence = some (run.lastEventSequence + 1) :=
    checkedSucc_eq_some_iff.mpr ⟨hsequence, rfl⟩
  have haggregate : checkedSucc run.aggregateVersion = some (run.aggregateVersion + 1) :=
    checkedSucc_eq_some_iff.mpr ⟨hversion, rfl⟩
  cases hlog : storedLog fence.tenantId runId db (run.lastEventSequence + 1) with
  | none =>
    left
    have hnext : nextRawEvent fence.tenantId runId (run.lastEventSequence + 1) db = none := by
      rw [nextRawEvent_eq, hlog, Option.map_none]
    refine ⟨.sequenceGap (run.lastEventSequence + 1), ?_⟩
    unfold nextProjection
    rw [hexpected]
    simp only [okOr, bind, Except.bind, hnext]
  | some event =>
    obtain ⟨hevent, htenant, hrun, hat⟩ := mem_storedLog hlog
    have hunapplied : Unapplied db event :=
      hbooked.unapplied event hevent (RawRunEvent.ofRun_iff.mpr ⟨htenant, hrun⟩) (by omega)
    have hnext := nextRawEvent_eq_some_none_iff.mpr ⟨hlog, hunapplied⟩
    cases hdecoded : decodeProjection codec fence runId run event with
    | error block =>
      left
      refine ⟨block, ?_⟩
      unfold nextProjection
      rw [hexpected]
      simp only [okOr, bind, Except.bind, hnext, hdecoded]
    | ok decoded =>
      by_cases hfollows : decoded.aggregateVersion = run.aggregateVersion + 1
      · right
        exact ⟨event, decoded, nextProjection_eq_event_iff.mpr
          ⟨⟨hsequence, hversion⟩, hlog, hunapplied, hdecoded, hfollows⟩⟩
      · left
        refine ⟨.aggregateVersionGap (run.aggregateVersion + 1) decoded.aggregateVersion, ?_⟩
        unfold nextProjection
        rw [hexpected]
        simp only [okOr, bind, Except.bind, hnext, hdecoded, haggregate]
        rw [if_pos hfollows]

/-- **Drain lemma.** With room for the events ahead, all of them in time, the loop
    ends and commits. -/
theorem commits_drainLoop {fuel appliedCount : ℕ} (hfuel : ahead codec fence runId s.db run < fuel)
    (hverdict : ∀ context, s.verdict context = none) (hm : Mirrors fence runId s.db run)
    (hbooked : Booked fence.tenantId runId s.db run) (hrow : s.db.runs.find? runId = some row)
    (hcontinues : Continues base row)
    (htime : ∀ event ∈ eventsOf fence.tenantId runId s.db, InTime base event)
    (hsequence : run.lastEventSequence + ahead codec fence runId s.db run < i64Max)
    (hversion : run.aggregateVersion + ahead codec fence runId s.db run < i64Max)
    (hcount : appliedCount + ahead codec fence runId s.db run ≤ u32Max) :
    ∃ run' outcome block s', outcome.block = some block ∧
      Commits (drainLoop codec fence runId fuel run appliedCount) s (run', outcome) s' := by
  induction fuel generalizing run appliedCount s row with
  | zero => omega
  | succ fuel ih =>
    rcases nextProjection_cases codec (by omega) (by omega) hbooked with
      ⟨block, hnext⟩ | ⟨event, decoded, hnext⟩
    · refine ⟨run, ⟨appliedCount, some block⟩, block, s, rfl, ?_⟩
      unfold drainLoop
      simp only [commits_select_bind, commits_ofExcept_bind]
      exact ⟨_, hnext, commits_pure.mpr ⟨rfl, rfl⟩⟩
    · have hlog := (nextProjection_eq_event_iff.mp hnext).2.1
      have hevent : event ∈ eventsOf fence.tenantId runId s.db := (Replay.mem_of_logOf hlog).1
      obtain ⟨run₁, s₁, happly, hverdict₁⟩ := commits_applyRunEvent hverdict hnext hm hbooked hrow
        hcontinues (htime event hevent)
      have hturn := applyRunEvent_spec hnext happly
      have hahead := hturn.ahead_lt
      obtain ⟨hnextSequence, hnextVersion⟩ := hturn.next_columns
      obtain ⟨new, hnew, hcontinues₁⟩ := hcontinues.of_turn hturn hm hrow
      have hevents : eventsOf fence.tenantId runId s₁.db = eventsOf fence.tenantId runId s.db :=
        hturn.eventsOf_eq
      obtain ⟨run', outcome, block, s', hblock, hcommits⟩ : ∃ run' outcome block s',
          outcome.block = some block ∧ Commits
            (drainLoop codec fence runId fuel run₁ (appliedCount + 1)) s₁ (run', outcome) s' :=
        ih (by omega) (hverdict₁ ▸ hverdict) (hturn.mirrors hm) (hbooked.of_turn hturn) hnew
          hcontinues₁ (hevents ▸ htime) (by omega) (by omega) (by omega)
      refine ⟨run', outcome, block, s', hblock, ?_⟩
      unfold drainLoop
      simp only [commits_select_bind, commits_ofExcept_bind]
      have hcounted : countSucc appliedCount = .ok (appliedCount + 1) := if_pos (by omega)
      exact ⟨_, hnext, commits_bind.mpr ⟨run₁, s₁, happly,
        commits_ofExcept_bind.mpr ⟨_, hcounted, hcommits⟩⟩⟩

/-! ## When a delivery succeeds -/

/-- The session is active until `expiresAt` and belongs to the worker's generation. -/
def Authorized (fence : WorkerSessionFence) (expiresAt : Timestamptz) (db : Db) : Prop :=
  fence.validate = .ok () ∧ ∃ session worker, workerSessionRow fence db = some (session, worker) ∧
    session.workerGeneration = fence.generation ∧ worker.generation = fence.generation ∧
    session.status = .active ∧ worker.status ≠ .quarantined ∧ session.expiresAt = expiresAt

variable {expiresAt now : Timestamptz}

theorem Authorized.sessionOpen (h : Authorized fence expiresAt db) (hnow : now < expiresAt) :
    SessionOpen fence now db := by
  obtain ⟨-, session, worker, hrow, hgeneration, hcurrent, hactive, -, rfl⟩ := h
  exact ⟨session, worker, hrow, hgeneration, hcurrent, hactive, hnow⟩

theorem Authorized.live (h : Authorized fence expiresAt db) (hnow : now < expiresAt) :
    liveWorkerSession fence now db := by
  obtain ⟨-, session, worker, hrow, hgeneration, hcurrent, hactive, hstatus, rfl⟩ := h
  simp [liveWorkerSession, hrow, hgeneration, hcurrent, hactive, hstatus, hnow]

theorem disposition_eq_ok {targetApplied inserted : Bool} {drain : DrainOutcome}
    {block : RunEventProjectionBlock} (h : drain.block = some block) :
    ∃ result, disposition targetApplied inserted run drain = .ok result := by
  unfold disposition
  rw [h]
  cases targetApplied
  · exact ⟨_, rfl⟩
  · exact ⟨_, rfl⟩

/-- There is room for `n` more events in the counters. -/
structure Room (run : LockedRun) (n : ℕ) : Prop where
  sequence : run.lastEventSequence + n < i64Max
  version : run.aggregateVersion + n < i64Max
  count : n ≤ u32Max

/-- A new event of a run that is in order is stored and what follows is applied. -/
theorem commits_ingestRunEvent {incoming : IncomingRunEvent} {stored : Db}
    (hverdict : ∀ context, s.verdict context = none) (hauthorized : Authorized fence expiresAt s.db)
    (hnow : s.tick.tick.now < expiresAt) (hvalid : incoming.validate = .ok ())
    (hadds : Adds s.db (rawRow codec fence incoming) stored)
    (hm : Mirrors fence incoming.runId s.db run)
    (hbooked : Booked fence.tenantId incoming.runId s.db run)
    (hrow : s.db.runs.find? incoming.runId = some row) (hcontinues : Continues base row)
    (htime : ∀ event ∈ eventsOf fence.tenantId incoming.runId stored, InTime base event)
    (hroom : Room run (ahead codec fence incoming.runId stored run)) :
    ∃ outcome s', Commits (ingestRunEvent codec fence incoming) s outcome s' := by
  have hfirst : s.tick.now < expiresAt := lt_of_le_of_lt s.tick.now_le_tick hnow
  have hlock : Commits (lockWorkerAndRun fence incoming.runId) s run s.tick :=
    commits_lockWorkerAndRun.mpr ⟨rfl, hauthorized.sessionOpen hfirst, hm⟩
  have hstores : Stores codec fence incoming s.tick.db stored := .inl hadds
  obtain ⟨id, inserted, hstore⟩ : ∃ id inserted, Commits (storeRawEvent codec fence incoming)
      s.tick (id, inserted) (s.tick.tick.withDb stored) :=
    commits_storeRawEvent (hverdict _) (hauthorized.live hnow) hstores
  obtain ⟨run', outcome, block, s', hblock, hdrain⟩ :
      ∃ run' outcome block s', outcome.block = some block ∧
        Commits (drainContiguousEvents codec fence incoming.runId run) (s.tick.tick.withDb stored)
          (run', outcome) s' := by
    unfold drainContiguousEvents
    simp only [commits_select_bind]
    refine commits_drainLoop ?_ hverdict (hstores.mirrors hm) (hbooked.of_adds hadds) ?_ hcontinues
      htime hroom.sequence hroom.version (by simpa using hroom.count)
    · exact Nat.lt_succ_of_le ((Replay.length_pending_le run).trans (List.length_filter_le ..))
    · simp only [Session.withDb_db, hadds.runs]
      exact hrow
  obtain ⟨result, hresult⟩ : ∃ result, disposition
      (eventIsApplied fence.tenantId incoming.runId id s'.db) inserted run' outcome = .ok result :=
    disposition_eq_ok hblock
  unfold ingestRunEvent
  simp only [commits_bind, commits_select, commits_ofExcept, commits_pure]
  exact ⟨_, _, (), s, ⟨hauthorized.1, rfl⟩, (), s, ⟨hvalid, rfl⟩, run, s.tick, hlock,
    (id, inserted), _, hstore, (run', outcome), s', hdrain, _, s', ⟨rfl, rfl⟩, result, s',
    ⟨hresult, rfl⟩, rfl, rfl⟩

end Asf.RunEvents
