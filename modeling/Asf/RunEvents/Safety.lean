import Asf.RunEvents.Effects

/-!
# The projection of a run is safe

Whatever is delivered, in whatever order and by whomever, the applied events of
a run are one for each sequence between the cursor it started with and the
cursor it has, its version moves with the cursor, the cursor never goes back and
a terminal state stays.

Results:

* `Accounted.of_turn`, `Accounted.of_next`: what a turn and a request keep.
* `AllLater.of_next`: how a request can move a run.
* `run_projection_safe`: what holds after every run of requests.
-/

namespace Asf.RunEvents

open Lib (Table Indexed)
open RawRunEvent (conflicts_iff ofRun_iff)
open RunEventApplication (names_iff)

variable {events : List RawRunEvent} {incoming : IncomingRunEvent}

variable {codec : Codec} {fence : WorkerSessionFence} {runId : Uuid} {run run' : LockedRun}
  {event : RawRunEvent} {db db' : Db} {base row : RunRow} {stored : RawRunEvent}

theorem RawRunEvent.conflicts_comm (a b : RawRunEvent) : a.conflicts b = b.conflicts a := by
  rw [Bool.eq_iff_iff, conflicts_iff, conflicts_iff]
  constructor <;> intro h <;> simpa only [eq_comm] using h

section

variable {a b : RawRunEvent} (ha : a ∈ db.rawRunEvents.rows)

include ha

/-- A stored event is the only one with its row id. -/
theorem event_unique_id (hb : b ∈ db.rawRunEvents.rows) (h : a.id = b.id) : a = b :=
  Indexed.eq_of_conflicts RawRunEvent.conflicts_comm ha hb (conflicts_iff.mpr (.inl h))

/-- A stored event is the only one of its run with its sequence. -/
theorem event_unique_sequence {tenantId : Uuid}
    (hb : b ∈ db.rawRunEvents.rows) (hra : a.ofRun tenantId runId)
    (hrb : b.ofRun tenantId runId) (h : a.sequence = b.sequence) : a = b := by
  obtain ⟨hta, hra⟩ := ofRun_iff.mp hra
  obtain ⟨htb, hrb⟩ := ofRun_iff.mp hrb
  exact Indexed.eq_of_conflicts RawRunEvent.conflicts_comm ha hb (conflicts_iff.mpr
    (.inr ⟨⟨hta.trans htb.symm, hra.trans hrb.symm⟩, .inr (.inr h)⟩))

end

/-! ## The account of a run -/

/-- The applications of the run `base` name the events after its first cursor up to
    its present one, and there is one for each. -/
structure Accounted (base : RunRow) (db : Db) (row : RunRow) : Prop where
  found : db.runs.find? base.id = some row
  tenant : row.tenantId = base.tenantId
  advanced : base.lastEventSequence ≤ row.lastEventSequence
  version : row.aggregateVersion - row.lastEventSequence =
    base.aggregateVersion - base.lastEventSequence
  within : ∀ a ∈ db.runEventApplications.rows, a.tenantId = base.tenantId → a.runId = base.id →
    ∃ event ∈ db.rawRunEvents.rows, a.names event ∧ base.lastEventSequence < event.sequence ∧
      event.sequence ≤ row.lastEventSequence
  complete : ∀ n, base.lastEventSequence < n → n ≤ row.lastEventSequence →
    ∃ event ∈ db.rawRunEvents.rows, event.ofRun base.tenantId base.id ∧ event.sequence = n ∧
      applicationFor event ∈ db.runEventApplications.rows

theorem Accounted.initial (hbase : db.runs.find? base.id = some base)
    (hfresh : ∀ a ∈ db.runEventApplications.rows,
      ¬ (a.tenantId = base.tenantId ∧ a.runId = base.id)) : Accounted base db base where
  found := hbase
  tenant := rfl
  advanced := le_rfl
  version := rfl
  within a ha htenant hrun := absurd ⟨htenant, hrun⟩ (hfresh a ha)
  complete n hn hn' := by omega

/-- More raw events do not change the account. -/
theorem Accounted.of_tables (h : Accounted base db row) (hruns : db'.runs = db.runs)
    (happlications : db'.runEventApplications = db.runEventApplications)
    (hevents : db.rawRunEvents.rows ⊆ db'.rawRunEvents.rows) : Accounted base db' row where
  found := hruns ▸ h.found
  tenant := h.tenant
  advanced := h.advanced
  version := h.version
  within a ha htenant hrun := by
    obtain ⟨event, hevent, hnames⟩ := h.within a (happlications ▸ ha) htenant hrun
    exact ⟨event, hevents hevent, hnames⟩
  complete n hn hn' := by
    obtain ⟨event, hevent, hrun, hsequence, happlied⟩ := h.complete n hn hn'
    exact ⟨event, hevents hevent, hrun, hsequence, happlications ▸ happlied⟩

theorem applicationFor_names (event : RawRunEvent) : (applicationFor event).names event :=
  names_iff.mpr ⟨⟨rfl, rfl⟩, rfl, rfl⟩

section

variable (h : Turn codec fence runId db run event db' run')

include h

/-- The run's row before and after a turn, and every other row. -/
theorem Turn.rows :
    ∃ old new, db.runs.find? runId = some old ∧ db'.runs.find? runId = some new ∧
      isUnchanged fence run old ∧ Projects old event run' new ∧
      ∀ id, id ≠ runId → db'.runs.find? id = db.runs.find? id := by
  obtain ⟨old, new, hold, hguard, hprojects, hruns⟩ := h.runs
  obtain ⟨_, hcolumns⟩ := hprojects
  obtain rfl : old.id = runId := (Table.find?_eq_some_iff.mp hold).2
  have hid : new.id = old.id := by rw [hcolumns]
  refine ⟨old, new, hold, ?_, hguard, ⟨_, hcolumns⟩, fun id hne => ?_⟩
  · rw [hruns, ← hid]
    exact Table.find?_set_self (hid ▸ hold)
  · rw [hruns, Table.find?_set, if_neg]
    exact fun heq => hne (heq.symm.trans hid)

/-- The next sequence and the next version go together. -/
theorem Turn.next_columns :
    run'.lastEventSequence = run.lastEventSequence + 1 ∧
      run'.aggregateVersion = run.aggregateVersion + 1 := by
  obtain ⟨_, -, -, rfl⟩ := follow_eq_some_iff.mp h.follows
  exact ⟨rfl, rfl⟩

/-- **Step lemma.** A turn keeps the account of every run. -/
theorem Accounted.of_turn (hrow : Accounted base db row) : ∃ row', Accounted base db' row' := by
  obtain ⟨old, new, hold, hnew, hguard, ⟨_, hcolumns⟩, hothers⟩ := h.rows
  obtain ⟨hevent, htenant, hrun, hsequence⟩ := mem_storedLog h.found
  obtain ⟨hnextSequence, hnextVersion⟩ := h.next_columns
  by_cases hbase : base.id = runId
  · -- the turn is about this run: its row is the one that was locked
    subst hbase
    obtain rfl := Option.some.inj (hold.symm.trans hrow.found)
    simp only [isUnchanged, Bool.and_eq_true, beq_iff_eq] at hguard
    obtain ⟨⟨⟨⟨hfence, -⟩, -⟩, hlast⟩, hversion⟩ := hguard
    have hlast' : new.lastEventSequence = old.lastEventSequence + 1 := by
      rw [hcolumns]; simp only; omega
    have hversion' : new.aggregateVersion = old.aggregateVersion + 1 := by
      rw [hcolumns]; simp only; omega
    refine ⟨new, hnew, ?_, ?_, ?_, ?_, ?_⟩
    · rw [hcolumns]
      exact hrow.tenant
    · have := hrow.advanced
      omega
    · have := hrow.version
      omega
    · intro a ha haTenant haRun
      rw [h.applications, List.mem_append, List.mem_singleton] at ha
      rcases ha with ha | rfl
      · obtain ⟨e, he, hnames, hlow, hhigh⟩ := hrow.within a ha haTenant haRun
        exact ⟨e, h.events ▸ he, hnames, hlow, by omega⟩
      · have := hrow.advanced
        exact ⟨event, h.events ▸ hevent, applicationFor_names event, by omega, by omega⟩
    · intro n hlow hhigh
      rw [h.applications, h.events]
      by_cases hn : n ≤ old.lastEventSequence
      · obtain ⟨e, he, heRun, heSequence, happlied⟩ := hrow.complete n hlow hn
        exact ⟨e, he, heRun, heSequence, List.mem_append_left _ happlied⟩
      · have htenant' := htenant.trans (hfence.symm.trans hrow.tenant)
        exact ⟨event, hevent, ofRun_iff.mpr ⟨htenant', hrun⟩, by omega, by simp⟩
  · -- another run: neither its row nor its applications change
    refine ⟨row, ?_, hrow.tenant, hrow.advanced, hrow.version, ?_, ?_⟩
    · rw [hothers _ hbase]
      exact hrow.found
    · intro a ha haTenant haRun
      rw [h.applications, List.mem_append, List.mem_singleton] at ha
      rcases ha with ha | rfl
      · rw [h.events]
        exact hrow.within a ha haTenant haRun
      · exact absurd (haRun.symm.trans hrun) hbase
    · intro n hlow hhigh
      obtain ⟨e, he, heRun, heSequence, happlied⟩ := hrow.complete n hlow hhigh
      rw [h.applications, h.events]
      exact ⟨e, he, heRun, heSequence, List.mem_append_left _ happlied⟩

end

theorem Accounted.of_drains (hrow : Accounted base db row)
    (h : Drains codec fence runId db run events db' run') : ∃ row', Accounted base db' row' := by
  induction h generalizing row with
  | nil => exact ⟨row, hrow⟩
  | cons turn _ ih =>
    obtain ⟨_, hrow'⟩ := hrow.of_turn turn
    exact ih hrow'

theorem Stores.events_subset (h : Stores codec fence incoming db db') :
    db.rawRunEvents.rows ⊆ db'.rawRunEvents.rows := by
  rcases h with h | ⟨-, -, rfl⟩
  · rw [h.events]
    exact List.subset_append_left _ _
  · exact List.Subset.refl _

/-- A request keeps the account of every run. -/
theorem Accounted.of_next (hrow : Accounted base db row) (request : Request) :
    ∃ row', Accounted base ((ledger codec).next db request) row' := by
  change ∃ row', Accounted base (perform codec db request).1 row'
  rcases perform_cases codec db request with ⟨error, hstep⟩ |
    ⟨fence, incoming, stored, run, events, run', -, -, h⟩ |
    ⟨workers, workerSessions, -, hstep⟩
  · exact ⟨row, by rwa [hstep]⟩
  · obtain ⟨hruns, -, -, -, happlications⟩ := h.stores.runs
    have hstored := hrow.of_tables hruns happlications h.stores.events_subset
    exact hstored.of_drains h.drains
  · rw [hstep]
    exact ⟨row, hrow.of_tables rfl rfl (List.Subset.refl _)⟩

/-- **Run lemma.** Every run of requests keeps the account. -/
theorem Accounted.of_run (hrow : Accounted base db row) (requests : List Request) :
    ∃ row', Accounted base ((ledger codec).run db requests) row' :=
  (ledger codec).run_invariant (P := fun db => ∃ row', Accounted base db row')
    (fun _ request ⟨_, h⟩ => h.of_next request) ⟨row, hrow⟩ requests

/-! ## How a run moves -/

/-- A terminal state has no transition but to itself. -/
theorem projectState_of_isTerminal {current target : RunState} {eventType : String}
    (hterminal : isTerminal current) (h : projectState current eventType = .ok target) :
    target = current := by
  unfold projectState at h
  split at h
  · cases h
  · rename_i target₀ _
    split_ifs at h with hvalid
    obtain rfl := Except.ok.inj h
    unfold validRunTransition at hvalid
    cases current <;> simp_all [isTerminal]

/-- `later` is a later row of the run whose row was `row`. -/
structure Later (row later : RunRow) : Prop where
  sequence : row.lastEventSequence ≤ later.lastEventSequence
  terminal : isTerminal row.state → later.state = row.state

theorem Later.refl (row : RunRow) : Later row row := ⟨le_rfl, fun _ => rfl⟩

theorem Later.trans {a b c : RunRow} (h : Later a b) (h' : Later b c) : Later a c where
  sequence := h.sequence.trans h'.sequence
  terminal ha := by
    have hb := h.terminal ha
    exact (h'.terminal (hb ▸ ha)).trans hb

/-- Every row of `runs` is still there, at the same place or later. -/
def AllLater (db db' : Db) : Prop :=
  ∀ id row, db.runs.find? id = some row → ∃ later, db'.runs.find? id = some later ∧ Later row later

theorem AllLater.of_runs (h : db'.runs = db.runs) : AllLater db db' :=
  fun _ row hrow => ⟨row, h ▸ hrow, .refl row⟩

theorem AllLater.trans {db₁ : Db} (h : AllLater db db₁) (h' : AllLater db₁ db') :
    AllLater db db' := by
  intro id row hrow
  obtain ⟨row₁, hrow₁, hlater⟩ := h id row hrow
  obtain ⟨row₂, hrow₂, hlater'⟩ := h' id row₁ hrow₁
  exact ⟨row₂, hrow₂, hlater.trans hlater'⟩

theorem Turn.allLater (h : Turn codec fence runId db run event db' run')
    (hm : Mirrors fence runId db run) : AllLater db db' := by
  intro id row hrow
  obtain ⟨old, new, hold, hnew, hguard, ⟨_, hcolumns⟩, hothers⟩ := h.rows
  obtain ⟨hnext, -⟩ := h.next_columns
  by_cases hid : id = runId
  · subst hid
    obtain rfl := Option.some.inj (hold.symm.trans hrow)
    obtain ⟨locked, order, hlocked, -, -, hrun⟩ := hm
    obtain rfl := Option.some.inj (hold.symm.trans (runProjectionRow_eq_some_iff.mp hlocked).1)
    have hsequence : run.lastEventSequence = old.lastEventSequence := by rw [hrun]; rfl
    have hstate : run.state = old.state := by rw [hrun]; rfl
    refine ⟨new, hnew, ?_, fun hterminal => ?_⟩
    · rw [hcolumns]
      simp only
      omega
    · obtain ⟨decoded, hdecoded, -, hrun'⟩ := follow_eq_some_iff.mp h.follows
      have hprojected := (decodeProjection_eq_ok hdecoded).1
      rw [hstate] at hprojected
      rw [hcolumns, hrun']
      exact projectState_of_isTerminal hterminal hprojected
  · exact ⟨row, by rw [hothers id hid, hrow], .refl row⟩

theorem Drains.allLater (h : Drains codec fence runId db run events db' run')
    (hm : Mirrors fence runId db run) : AllLater db db' := by
  induction h with
  | nil => exact .of_runs rfl
  | cons turn _ ih => exact (turn.allLater hm).trans (ih (turn.mirrors hm))

/-- **Step lemma.** A request moves no run back and leaves terminal states alone. -/
theorem AllLater.of_next (codec : Codec) (db : Db) (request : Request) :
    AllLater db ((ledger codec).next db request) := by
  change AllLater db (perform codec db request).1
  rcases perform_cases codec db request with ⟨error, hstep⟩ |
    ⟨fence, incoming, stored, run, events, run', -, -, h⟩ |
    ⟨workers, workerSessions, -, hstep⟩
  · rw [hstep]
    exact .of_runs rfl
  · exact (AllLater.of_runs h.stores.runs.1).trans (h.drains.allLater (h.stores.mirrors h.locked))
  · rw [hstep]
    exact .of_runs rfl

/-- **Run lemma.** -/
theorem AllLater.of_run (codec : Codec) (db : Db) (requests : List Request) :
    AllLater db ((ledger codec).run db requests) :=
  (ledger codec).run_rel (P := fun _ => True) (fun _ => .of_runs rfl)
    (fun _ _ _ h h' => h.trans h') (fun _ _ _ => trivial)
    (fun db request _ => .of_next codec db request) trivial requests

/-! ## Collisions -/

/-- The stored event has one of the identities of the incoming one and says something
    else. -/
def Collides (fence : WorkerSessionFence) (incoming : IncomingRunEvent) (stored : RawRunEvent) :
    Prop :=
  stored.ofRun fence.tenantId incoming.runId ∧
    (stored.externalEventId = incoming.externalEventId ∨ stored.cursor = incoming.cursor ∨
      stored.sequence = incoming.sequence) ∧
    ¬ sameContent incoming stored

/-- A collision is neither stored nor taken for a repetition. -/
theorem Stores.not_collides (h : Stores codec fence incoming db db')
    (hstored : stored ∈ db.rawRunEvents.rows) : ¬ Collides fence incoming stored := by
  rintro ⟨hrun, hidentity, hcontent⟩
  rcases h with h | ⟨-, ⟨row, hrows, -, -, -, hsame⟩, -⟩
  · have hconflicts : stored.conflicts (rawRow codec fence incoming) :=
      conflicts_iff.mpr (.inr ⟨ofRun_iff.mp hrun, hidentity⟩)
    rw [h.free stored hstored] at hconflicts
    cases hconflicts
  · have hmem : stored ∈ identityRows fence incoming db := by
      refine List.mem_filter.mpr ⟨hstored, ?_⟩
      simpa [hrun, or_assoc] using hidentity
    rw [hrows, List.mem_singleton] at hmem
    exact hcontent (hmem ▸ hsame)

theorem collision_fails (codec : Codec) {request : Request}
    (hcall : request.call = .ingest fence incoming)
    (hstored : stored ∈ db.rawRunEvents.rows) (h : Collides fence incoming stored) :
    ∃ error, perform codec db request = (db, .error error) := by
  rcases perform_cases codec db request with hfails |
    ⟨fence', incoming', stored', run, events, run', hcall', -, hingests⟩ |
    ⟨workers, workerSessions, hcall', -⟩
  · exact hfails
  · obtain ⟨rfl, rfl⟩ := Call.ingest.inj (hcall.symm.trans hcall')
    exact absurd h (hingests.stores.not_collides hstored)
  · cases hcall.symm.trans hcall'

/-! ## The contract -/

/-- The event is stored and has an application to the run. -/
def AppliedTo (base : RunRow) (db : Db) (event : RawRunEvent) : Prop :=
  event ∈ db.rawRunEvents.rows ∧ eventIsApplied base.tenantId base.id event.id db

theorem appliedTo_iff : AppliedTo base db event ↔
    event ∈ db.rawRunEvents.rows ∧ ∃ a ∈ db.runEventApplications.rows,
      a.tenantId = base.tenantId ∧ a.runId = base.id ∧ a.names event := by
  simp only [AppliedTo, eventIsApplied, List.any_eq_true, Bool.and_eq_true, beq_iff_eq]
  constructor
  · rintro ⟨hevent, a, ha, ⟨htenant, hrun⟩, hid⟩
    obtain ⟨named, hnamed, hnames⟩ := db.applications_named a ha
    obtain ⟨-, hnamedId, -⟩ := names_iff.mp hnames
    obtain rfl := event_unique_id hevent hnamed (hid.symm.trans hnamedId.symm)
    exact ⟨hevent, a, ha, htenant, hrun, hnames⟩
  · rintro ⟨hevent, a, ha, htenant, hrun, hnames⟩
    exact ⟨hevent, a, ha, ⟨htenant, hrun⟩, (names_iff.mp hnames).2.1.symm⟩

theorem AppliedTo.ofRun (h : AppliedTo base db event) : event.ofRun base.tenantId base.id := by
  obtain ⟨-, a, -, htenant, hrun, hnames⟩ := appliedTo_iff.mp h
  obtain ⟨⟨heventTenant, heventRun⟩, -⟩ := names_iff.mp hnames
  exact ofRun_iff.mpr ⟨heventTenant.trans htenant, heventRun.trans hrun⟩

theorem Accounted.appliedTo (hrow : Accounted base db row) (h : AppliedTo base db event) :
    base.lastEventSequence < event.sequence ∧ event.sequence ≤ row.lastEventSequence := by
  obtain ⟨hevent, a, ha, htenant, hrun, hnames⟩ := appliedTo_iff.mp h
  obtain ⟨named, hnamed, hnames', hrange⟩ := hrow.within a ha htenant hrun
  obtain ⟨-, hid, -⟩ := names_iff.mp hnames
  obtain ⟨-, hid', -⟩ := names_iff.mp hnames'
  obtain rfl := event_unique_id hevent hnamed (hid.trans hid'.symm)
  exact hrange

/-- The run `base` of a database stands at `row`. -/
structure ProjectionContract (codec : Codec) (base : RunRow) (db : Db) (row : RunRow) : Prop where
  found : db.runs.find? base.id = some row
  /-- Its applied events are one for each sequence after the first cursor up to the
      present one, and no other. -/
  applied : ∀ n, base.lastEventSequence < n ∧ n ≤ row.lastEventSequence ↔
    ∃! event, AppliedTo base db event ∧ event.sequence = n
  version : row.aggregateVersion - row.lastEventSequence =
    base.aggregateVersion - base.lastEventSequence
  /-- Whatever is requested next, the cursor does not go back and a terminal state stays. -/
  later : ∀ requests, ∃ later, ((ledger codec).run db requests).runs.find? base.id = some later ∧
    row.lastEventSequence ≤ later.lastEventSequence ∧
    (isTerminal row.state → later.state = row.state)
  /-- A delivery that collides with a stored event fails and changes nothing. -/
  collision : ∀ (request : Request) fence incoming stored,
    request.call = .ingest fence incoming → stored ∈ db.rawRunEvents.rows →
    Collides fence incoming stored → ∃ error, perform codec db request = (db, .error error)

theorem Accounted.contract (codec : Codec) (hrow : Accounted base db row) :
    ProjectionContract codec base db row where
  found := hrow.found
  applied n := by
    constructor
    · rintro ⟨hlow, hhigh⟩
      obtain ⟨event, hevent, hrun, hsequence, happlication⟩ := hrow.complete n hlow hhigh
      have happlied : AppliedTo base db event := by
        obtain ⟨htenant, hrunId⟩ := ofRun_iff.mp hrun
        exact appliedTo_iff.mpr ⟨hevent, _, happlication, htenant, hrunId,
          applicationFor_names event⟩
      refine ⟨event, ⟨happlied, hsequence⟩, ?_⟩
      rintro other ⟨hother, hsequence'⟩
      exact event_unique_sequence hother.1 hevent hother.ofRun hrun
        (hsequence'.trans hsequence.symm)
    · rintro ⟨event, ⟨happlied, rfl⟩, -⟩
      exact hrow.appliedTo happlied
  version := hrow.version
  later requests := by
    obtain ⟨later, hlater, hmoves⟩ := AllLater.of_run codec db requests base.id row hrow.found
    exact ⟨later, hlater, hmoves.sequence, hmoves.terminal⟩
  collision _ _ _ _ hcall hstored h := collision_fails codec hcall hstored h

/-- Take any database and a run of it that has no applied event yet. After any
    requests, with whatever events, the contract holds. -/
theorem run_projection_safe (codec : Codec) (start : Db) (base : RunRow)
    (hbase : start.runs.find? base.id = some base)
    (hfresh : ∀ a ∈ start.runEventApplications.rows,
      ¬ (a.tenantId = base.tenantId ∧ a.runId = base.id)) (requests : List Request) :
    ∃ row, ProjectionContract codec base ((ledger codec).run start requests) row := by
  obtain ⟨row, hrow⟩ := (Accounted.initial hbase hfresh).of_run requests
  exact ⟨row, hrow.contract codec⟩

/-! ## A run of two events -/

/-- Documents of four members, read back as they were written. -/
def sampleCodec : Codec where
  productEvent
    | .obj [("aggregate_version", .num version _), ("event_id", .num id _),
        ("event_type", .str eventType), ("occurred_at", .num micros _)] => .ok {
        schema := productEventSchemaV1
        eventId := .ofNat id.toNat
        tenantId := .ofNat 1
        workItemId := some (.ofNat 4)
        attemptId := some (.ofNat 5)
        workOrderDigest := some "work-order"
        runId := some (.ofNat 7)
        aggregateVersion := version.toNat
        occurredAt := .decode micros
        eventType := eventType }
    | _ => .error "missing field"
  readJson := id

def sampleFence : WorkerSessionFence := ⟨.ofNat 1, .ofNat 2, .ofNat 3, 1⟩

/-- A run that was adopted at 100. -/
def sampleRun : RunRow where
  id := .ofNat 7
  tenantId := .ofNat 1
  workItemId := .ofNat 4
  attemptId := .ofNat 5
  workOrderId := .ofNat 6
  workerId := .ofNat 3
  workerGeneration := 1
  workerSessionId := .ofNat 2
  externalRunId := "run"
  authoritative := true
  state := .adopted
  lastEventCursor := none
  lastEventSequence := 0
  aggregateVersion := 1
  adoptedAt := 100
  lastObservedAt := 100
  terminalAt := none
  snapshot := none
  terminal_check := rfl

def sampleOrder : WorkOrder := ⟨.ofNat 6, .ofNat 1, .ofNat 4, .ofNat 5, "work-order"⟩

def sampleDb : Db where
  workers := ⟨[⟨.ofNat 3, .ofNat 1, .ready, 1, 1, Int.one_pos⟩], by simp⟩
  workerSessions := ⟨[⟨.ofNat 2, .ofNat 1, .ofNat 3, 1, .active, 1000⟩], by simp⟩
  workOrders := ⟨[sampleOrder], by simp⟩
  runs := ⟨[sampleRun], by simp⟩
  rawRunEvents := .empty
  runEventApplications := .empty
  applications_named := by simp [Indexed.empty]

/-- The event of that type with that sequence, which occurred at `micros`. -/
def sampleEvent (sequence : ℕ) (cursor eventType : String) (micros : ℤ) : IncomingRunEvent where
  id := .ofNat (10 + sequence)
  runId := .ofNat 7
  externalEventId := (Uuid.ofNat (20 + sequence)).toText
  cursor := cursor
  sequence := sequence
  aggregateVersion := sequence + 1
  schemaVersion := productEventSchemaV1
  eventType := eventType
  occurredAt := .decode micros
  rawEvent := .obj [("aggregate_version", .num (sequence + 1) 0),
    ("event_id", .num (20 + sequence) 0), ("event_type", .str eventType),
    ("occurred_at", .num micros 0)]

/-- A delivery at 200. -/
def deliver (incoming : IncomingRunEvent) : Request where
  now := 200
  pauses := fun _ => 0
  verdict := fun _ => none
  call := .ingest sampleFence incoming

/-- The second event comes first. -/
theorem run_projection_safe_swapped :
    ∃ row, ProjectionContract sampleCodec sampleRun ((ledger sampleCodec).run sampleDb
      [deliver (sampleEvent 2 "two" "run.failed" 180),
        deliver (sampleEvent 1 "one" "run.started" 150)]) row :=
  run_projection_safe sampleCodec sampleDb sampleRun (by decide) (by simp [sampleDb, Indexed.empty])
    _

end Asf.RunEvents
