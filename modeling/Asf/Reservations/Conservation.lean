import Asf.Reservations.Accounting

/-!
# Conservation and replay

Results:

* `next_evolves`, `run_evolves`: a set is admitted open, is closed at most once
  and never changes again.
* `Adopts.effect`, `run_adopts`: nothing takes away what the same request adopts.
* `budget_ledger_conserved`: every `RESERVE` entry is released exactly once, when
  its set is closed, and a repeated transition adopts the recorded one.
-/

namespace Asf.Reservations

open Lib (Table Commits)
open ReservationBudgetDimension (all)

variable {db : Db} {set : ReservationSet} {event : ReservationSetEvent} {entries : List BudgetEntry}
  {state : State}

variable {codec : Codec} {s s' : Session Db} {closed : ReservationSet} {db' : Db}

/-! ## The life of a set -/

/-- `ACTIVE` at fence 1. -/
def ReservationSet.IsOpen (set : ReservationSet) : Prop := set.state = .active ∧ set.fenceToken = 1

/-- Terminal at fence 2. -/
def ReservationSet.IsClosed (set : ReservationSet) : Prop :=
  set.state ≠ .active ∧ set.fenceToken = 2

/-- A set stays as it is, or an open one is closed. -/
def ReservationSet.Evolves (set set' : ReservationSet) : Prop :=
  set' = set ∨ set'.id = set.id ∧ set.IsOpen ∧ set'.IsClosed

theorem ReservationSet.Evolves.trans {a b c : ReservationSet} (h : a.Evolves b)
    (h' : b.Evolves c) : a.Evolves c := by
  rcases h with rfl | ⟨hid, hopen, hclosed⟩
  · exact h'
  · rcases h' with rfl | ⟨-, hopen', -⟩
    · exact .inr ⟨hid, hopen, hclosed⟩
    · exact absurd hopen'.1 hclosed.1

/-- Every set of `db` is there in `db'`, possibly closed, and no set is new. -/
structure Db.EvolvesTo (db db' : Db) : Prop where
  kept : ∀ set ∈ db.reservationSets.rows, ∃ set' ∈ db'.reservationSets.rows, set.Evolves set'
  old : ∀ set' ∈ db'.reservationSets.rows, ∃ set ∈ db.reservationSets.rows, set.Evolves set'

theorem Db.EvolvesTo.of_eq (h : db'.reservationSets = db.reservationSets) : db.EvolvesTo db' := by
  constructor
  · intro set hset
    exact ⟨set, h ▸ hset, .inl rfl⟩
  · intro set hset
    exact ⟨set, h ▸ hset, .inl rfl⟩

theorem Db.EvolvesTo.trans {a b c : Db} (h : a.EvolvesTo b) (h' : b.EvolvesTo c) :
    a.EvolvesTo c := by
  constructor
  · intro set hset
    obtain ⟨set₁, hset₁, he₁⟩ := h.kept set hset
    obtain ⟨set₂, hset₂, he₂⟩ := h'.kept set₁ hset₁
    exact ⟨set₂, hset₂, he₁.trans he₂⟩
  · intro set hset
    obtain ⟨set₁, hset₁, he₁⟩ := h'.old set hset
    obtain ⟨set₂, hset₂, he₂⟩ := h.old set₁ hset₁
    exact ⟨set₂, hset₂, he₂.trans he₁⟩

theorem LedgerInv.isOpen_or_isClosed (hinv : LedgerInv db) (hset : set ∈ db.reservationSets.rows) :
    set.IsOpen ∨ set.IsClosed := by
  by_cases hactive : set.state = .active
  · exact .inl ⟨hactive, ((hinv.accounts set hset).active hactive).1⟩
  · exact .inr ⟨hactive, ((hinv.accounts set hset).terminal hactive).1⟩

section

variable (hinv : LedgerInv s.db)

include hinv

theorem Settled.evolvesTo {transition : ReservationTransitionRequest}
    {target : ReservationTerminalState}
    (h : Settled transition target s s' set closed entries event) : s.db.EvolvesTo s'.db := by
  have hclosed : closed ∈ s'.db.reservationSets.rows := h.mem_sets.mpr (.inl rfl)
  have hevolves : set.Evolves closed := by
    refine .inr ⟨h.closed_id, (hinv.isOpen_or_isClosed h.mem).resolve_right ?_,
      ((h.ledgerInv hinv).isOpen_or_isClosed hclosed).resolve_left ?_⟩
    · exact fun hc => hc.1 h.guard_iff.2.2.1
    · exact fun ho => h.closed_terminal ho.1
  constructor
  · intro row hrow
    by_cases hid : row.id = set.id
    · obtain rfl := Table.eq_of_key_eq hrow h.mem hid
      exact ⟨closed, hclosed, hevolves⟩
    · exact ⟨row, h.mem_sets.mpr (.inr ⟨hrow, hid⟩), .inl rfl⟩
  · intro row hrow
    rcases h.mem_sets.mp hrow with rfl | ⟨hrow, -⟩
    · exact ⟨set, h.mem, hevolves⟩
    · exact ⟨row, hrow, .inl rfl⟩

theorem Upkeep.evolvesTo (hu : Upkeep s s') : s.db.EvolvesTo s'.db := by
  cases hu with
  | reads hr => exact .of_eq (by rw [hr.db])
  | settled transition target set closed entries event hs => exact hs.evolvesTo hinv
  | configured config hlimits hs => exact .of_eq (by rw [hs]; rfl)
  | consumed entry htype hg => exact .of_eq hg.reservationSets

theorem Upkeeps.evolvesTo (h : Upkeeps s s') : LedgerInv s'.db ∧ s.db.EvolvesTo s'.db := by
  induction h with
  | refl => exact ⟨hinv, .of_eq rfl⟩
  | tail _ hlast ih => exact ⟨ih.1.upkeep hlast, ih.2.trans (hlast.evolvesTo ih.1)⟩

end

/-- **One request.** A set that was not there is open; any other has evolved
    from what it was, and none disappears. -/
theorem next_evolves (hinv : LedgerInv state.db) (request : Request) :
    (∀ set ∈ state.db.reservationSets.rows,
      ∃ set' ∈ ((ledger codec).next state request).db.reservationSets.rows, set.Evolves set') ∧
    ∀ set' ∈ ((ledger codec).next state request).db.reservationSets.rows,
      ((∀ set ∈ state.db.reservationSets.rows, set.id ≠ set'.id) ∧ set'.IsOpen) ∨
        ∃ set ∈ state.db.reservationSets.rows, set.Evolves set' := by
  rcases next_cases codec state request with
    ⟨s', ⟨_, _, set, rows, entries, event, -, hadmitted⟩ | hupkeeps, heq⟩ | heq
  · rw [heq]
    have hsets : s'.db.reservationSets.rows = state.db.reservationSets.rows ++ [set] :=
      hadmitted.sets
    simp only [hsets, List.mem_append, List.mem_singleton]
    refine ⟨fun set hset => ⟨set, .inl hset, .inl rfl⟩, ?_⟩
    rintro set' (hold | rfl)
    · exact .inr ⟨set', hold, .inl rfl⟩
    · obtain ⟨_, _, _, hset_eq⟩ := hadmitted.set_eq
      exact .inl ⟨hadmitted.id_fresh, by rw [hset_eq]; exact ⟨rfl, rfl⟩⟩
  · rw [heq]
    have hevolves := (hupkeeps.evolvesTo hinv).2
    exact ⟨hevolves.kept, fun set' hset' => .inr (hevolves.old set' hset')⟩
  · rw [heq]
    exact ⟨fun set hset => ⟨set, hset, .inl rfl⟩, fun set hset => .inr ⟨set, hset, .inl rfl⟩⟩

/-- **Every run.** -/
theorem run_evolves (hinv : LedgerInv state.db) (l : List Request) :
    ∀ set ∈ state.db.reservationSets.rows,
      ∃ set' ∈ ((ledger codec).run state l).db.reservationSets.rows, set.Evolves set' := by
  refine (ledger codec).run_rel (P := fun state => LedgerInv state.db)
    (R := fun a b => ∀ set ∈ a.db.reservationSets.rows, ∃ set' ∈ b.db.reservationSets.rows,
      set.Evolves set') ?_ ?_ ?_ ?_ hinv l
  · exact fun state set hset => ⟨set, hset, .inl rfl⟩
  · intro a b c hab hbc set hset
    obtain ⟨set₁, hset₁, he₁⟩ := hab set hset
    obtain ⟨set₂, hset₂, he₂⟩ := hbc set₁ hset₁
    exact ⟨set₂, hset₂, he₁.trans he₂⟩
  · exact fun state request h => run_ledgerInv h [request]
  · exact fun state request h => (next_evolves h request).1

/-! ## Replay -/

section Replay

variable {transition : ReservationTransitionRequest} {target : ReservationTerminalState}
  {receipt : ReservationTransitionReceipt} {i : Request}

/-- A recorded event stays the first under its key when events are added. -/
theorem recordedEvent_mono (hevents : db.setEvents.rows <+: db'.setEvents.rows)
    (h : db.recordedEvent transition = some event) : db'.recordedEvent transition = some event := by
  obtain ⟨events, hevents⟩ := hevents
  rw [Db.recordedEvent, ← hevents, List.find?_append]
  rw [Db.recordedEvent] at h
  rw [h]
  rfl

/-- What a transition recorded is what the same request adopts. -/
theorem Settled.adopts {eventId : Uuid} {occurredAt : Timestamptz}
    (hvalid : transition.validate = .ok ()) (hinv : LedgerInv s.db)
    (h : Settled transition target s s' set closed entries
      (transitionEvent transition target eventId occurredAt)) :
    Adopts s'.db transition target
      (transitionReceipt transition target .adopted eventId occurredAt) := by
  obtain ⟨htenant, hid, hactive, hfence⟩ := h.guard_iff
  have hone : (transition.expectedFenceToken : ℤ) = 1 :=
    hfence.symm.trans ((hinv.accounts set h.mem).active hactive).1
  have hone' : transition.expectedFenceToken = 1 := by omega
  have hrecorded : s'.db.recordedEvent transition =
      some (transitionEvent transition target eventId occurredAt) := by
    have hnone : s.db.recordedEvent transition = none := by
      rw [Db.recordedEvent, List.find?_eq_none]
      intro e he hp
      simp only [Bool.and_eq_true, beq_iff_eq] at hp
      exact h.event_fresh e he hp
    rw [Db.recordedEvent] at hnone
    rw [Db.recordedEvent, h.events, List.find?_append, hnone, Option.none_or]
    simp [transitionEvent]
  refine ⟨hvalid, by rw [hone]; decide, ⟨closed, ?_, h.closed_state, ?_⟩, _, hrecorded, ?_⟩
  · refine tenantSet_eq_some_iff.mpr ⟨h.mem_sets.mpr (.inl rfl), h.closed_id.trans hid, ?_⟩
    obtain ⟨_, _, rfl⟩ := h.closed_eq
    exact htenant
  · obtain ⟨_, _, rfl⟩ := h.closed_eq
    show (transition.expectedFenceToken : ℤ) + 1 = _
    rw [hone]
    rfl
  · refine ⟨⟨rfl, rfl, ?_, rfl, rfl⟩, 1, 2, ?_, ?_, ?_⟩
    · show (transition.expectedFenceToken : ℤ) = _
      rw [hone]
      rfl
    · show positiveU64 (transition.expectedFenceToken : ℤ) = _
      rw [hone]
      rfl
    · show positiveU64 ((transition.expectedFenceToken : ℤ) + 1) = _
      rw [hone]
      rfl
    · rw [transitionReceipt, hone']
      rfl

/-- A closed set stays, and so does the event that closed it. -/
theorem Adopts.mono (h : Adopts db transition target receipt)
    (hsets : ∀ set ∈ db.reservationSets.rows, set.state ≠ .active → set ∈ db'.reservationSets.rows)
    (hevents : db.setEvents.rows <+: db'.setEvents.rows) :
    Adopts db' transition target receipt := by
  obtain ⟨set, hset, hstate, hfence⟩ := h.set
  obtain ⟨event, hevent, hanswers⟩ := h.event
  obtain ⟨hmem, hid⟩ := tenantSet_eq_some_iff.mp hset
  have hterminal : set.state ≠ .active := hstate ▸ terminalStateValue_ne_active target
  exact ⟨h.valid, h.fence,
    ⟨set, tenantSet_eq_some_iff.mpr ⟨hsets set hmem hterminal, hid⟩, hstate, hfence⟩,
    event, recordedEvent_mono hevents hevent, hanswers⟩

section

variable (h : Adopts s.db transition target receipt)

include h

theorem Adopts.upkeep (hu : Upkeep s s') : Adopts s'.db transition target receipt := by
  cases hu with
  | reads hr =>
    rw [hr.db]
    exact h
  | settled _ _ set closed entries event hs =>
    refine h.mono (fun row hrow hterminal => hs.mem_sets.mpr (.inr ⟨hrow, fun hid => ?_⟩))
      ⟨_, hs.events.symm⟩
    obtain rfl := Table.eq_of_key_eq hrow hs.mem hid
    exact hterminal hs.guard_iff.2.2.1
  | configured config hlimits hs =>
    subst hs
    exact h.mono (fun _ hset _ => hset) ⟨[], List.append_nil _⟩
  | consumed entry htype hg =>
    refine h.mono (fun set hset _ => hg.reservationSets ▸ hset) ⟨[], ?_⟩
    rw [hg.setEvents, List.append_nil]

/-- **One step.** Nothing takes an adoptable answer away. -/
theorem Adopts.effect (he : Effect codec s s') : Adopts s'.db transition target receipt := by
  cases he with
  | admitted request identities set rows entries event hvalid ha =>
    refine h.mono (fun row hrow _ => ?_) ⟨_, ha.events.symm⟩
    rw [ha.sets]
    exact List.mem_append_left _ hrow
  | upkeep hu => exact h.upkeep hu

end

/-- The call that asks for a transition. -/
def transitionCall : ReservationTerminalState → ReservationTransitionRequest → Call
  | .released => .release
  | .expired => .expire

theorem transitionCall_transaction (target : ReservationTerminalState)
    (transition : ReservationTransitionRequest) :
    (transitionCall target transition).transaction codec =
      .transition <$> transitionReservationSet transition target := by
  cases target <;> rfl

/-- After a transition call has answered, the same call is adopted. -/
theorem adopts_of_answer (hinv : LedgerInv state.db)
    (hcall : i.call = transitionCall target transition)
    (h : (ledger codec).answer state i = .ok (.transition receipt)) :
    Adopts ((ledger codec).next state i).db transition target
      { receipt with disposition := .adopted } := by
  obtain ⟨s', hcommits, hnext⟩ := commits_of_answer h
  rw [hcall, transitionCall_transaction] at hcommits
  obtain ⟨receipt', hcommits, hanswer⟩ := Lib.commits_map.mp hcommits
  obtain rfl := Answer.transition.inj hanswer
  rw [hnext]
  rcases transitionReservationSet_cases hcommits with ⟨hadopts, rfl⟩ |
    ⟨hvalid, s₁, set, closed, entries, eventId, occurredAt, hreads, rfl, hsettled⟩
  · obtain ⟨event, hevent, hanswers⟩ := hadopts.event
    obtain ⟨_, _, hprevious, hfence, rfl⟩ := hanswers.reports
    exact hadopts
  · have hinv₁ : LedgerInv s₁.db := by
      rw [hreads.db]
      exact hinv
    exact hsettled.adopts hvalid hinv₁

section

variable (h : Adopts state.db transition target receipt)

include h

/-- What is adopted is adopted after every run. -/
theorem run_adopts (l : List Request) :
    Adopts ((ledger codec).run state l).db transition target receipt :=
  run_invariant_of_effect (P := fun _ db => Adopts db transition target receipt)
    (fun _ _ he h => h.effect he) h l

/-- An adopted call changes nothing, not even the clock. -/
theorem Adopts.step_eq (hcall : i.call = transitionCall target transition) :
    (ledger codec).step state i = (state, .ok (.transition receipt)) := by
  have hcommits : Commits (i.call.transaction codec) (i.session state) (.transition receipt)
      (i.session state) := by
    rw [hcall, transitionCall_transaction]
    exact Lib.commits_map.mpr ⟨receipt, Adopts.commits h, rfl⟩
  exact step_of_commits hcommits

end

end Replay

/-! ## Conservation -/

theorem SetAccounts.reserve_dimensions (h : SetAccounts db set) :
    (db.entriesOf .reserve set.id).map (·.dimension) = all := by
  have hlinks := congrArg (List.map fun link => link.2.1) h.reserve
  rw [List.map_map, List.map_map] at hlinks
  have hsome : ((db.entriesOf .reserve set.id).map (·.dimension)).map some =
      all.map some := by
    rw [List.map_map]
    exact hlinks.trans h.dimensions
  exact List.map_injective_iff.mpr (Option.some_injective _) hsome

/-- **Budget ledger conservation.** In every state a run reaches from an empty
    ledger, every set has one `RESERVE` entry per dimension, and either it is
    `ACTIVE` at fence 1 without `RELEASE` entries, or terminal at fence 2 with
    `RELEASE` entries for the same reservations, dimensions and amounts. Per
    tenant and dimension, `RESERVE` less `RELEASE` is what the `ACTIVE` sets
    hold. A request adds open sets and closes open ones; no later run changes
    a set in any other way. Repeating a transition request that was answered,
    at any later time, returns the same receipt marked `Adopted` and changes
    nothing. -/
theorem budget_ledger_conserved (codec : Codec) (clock : Timestamptz) (config : Config)
    (l : List Request) :
    let state := (ledger codec).run (initial clock config) l
    (∀ set ∈ state.db.reservationSets.rows,
      (state.db.entriesOf .reserve set.id).map (·.dimension) = all ∧
      (set.IsOpen ∧ state.db.entriesOf .release set.id = [] ∨
        set.IsClosed ∧ ((state.db.entriesOf .release set.id).map (·.link)).Perm
          ((state.db.entriesOf .reserve set.id).map (·.link)))) ∧
    (∀ tenantId dimension, (state.db.entryTotal .reserve tenantId dimension : ℤ)
      - state.db.entryTotal .release tenantId dimension =
        state.db.reservedTotal tenantId dimension) ∧
    (∀ i, ∀ set' ∈ ((ledger codec).next state i).db.reservationSets.rows,
      ((∀ set ∈ state.db.reservationSets.rows, set.id ≠ set'.id) ∧ set'.IsOpen) ∨
        ∃ set ∈ state.db.reservationSets.rows, set.Evolves set') ∧
    (∀ l', ∀ set ∈ state.db.reservationSets.rows,
      ∃ set' ∈ ((ledger codec).run state l').db.reservationSets.rows, set.Evolves set') ∧
    ∀ target transition receipt i, i.call = transitionCall target transition →
      (ledger codec).answer state i = .ok (.transition receipt) →
      ∀ l' i', i'.call = i.call →
        let later := (ledger codec).run ((ledger codec).next state i) l'
        (ledger codec).step later i' =
          (later, .ok (.transition { receipt with disposition := .adopted })) := by
  intro state
  have hinv : LedgerInv state.db := run_ledgerInv (ledgerInv_initial clock config) l
  refine ⟨?_, ?_, ?_, ?_, ?_⟩
  · intro set hset
    have haccounts := hinv.accounts set hset
    refine ⟨haccounts.reserve_dimensions, ?_⟩
    rcases hinv.isOpen_or_isClosed hset with hopen | hclosed
    · exact .inl ⟨hopen, (haccounts.active hopen.1).2⟩
    · refine .inr ⟨hclosed, ?_⟩
      rw [haccounts.reserve]
      exact (haccounts.terminal hclosed.1).2
  · intro tenantId dimension
    have htotal := hinv.total tenantId dimension
    omega
  · exact fun i => (next_evolves hinv i).2
  · exact run_evolves hinv
  · intro target transition receipt i hcall hanswer l' i' hcall' later
    exact (run_adopts (adopts_of_answer hinv hcall hanswer) l').step_eq (hcall'.trans hcall)

/-! ## A repeated release

The receipt of the repeated request is not the first one: its disposition says
that the transition was adopted. -/

/-- The implementer of the sample work order. -/
def sampleImplementer : CtxlaneProfileRef := ⟨"codex:implementer", by decide⟩

/-- Its reviewer. -/
def sampleReviewer : CtxlaneProfileRef := ⟨"claude:verifier", by decide⟩

/-- A codec that decodes every column to the same limits and identities. -/
def sampleCodec : Codec where
  budgetLimits := fun _ => .ok ⟨10, 10, 10, 10, 10, 10, 10, 10⟩
  identities := fun _ => .ok ⟨sampleImplementer, sampleReviewer, sampleReviewer⟩
  digest := fun _ => .ok "sha256:0"

/-- A tenant with one accepted work item, one repository and one live worker. -/
def sampleConfig : Config where
  tenants := ⟨[⟨.ofNat 1, .active⟩], by decide⟩
  workItems := ⟨[⟨.ofNat 2, .ofNat 1, some (.ofNat 4), some .null, some .null, some (.ofNat 3),
    some 0⟩], by decide⟩
  attempts := ⟨[⟨.ofNat 3, .ofNat 1, .ofNat 2, .created, 1⟩], by decide⟩
  repositories := ⟨[⟨.ofNat 4, .ofNat 1, true, 1, by decide, 1⟩], by decide⟩
  workers := ⟨[⟨.ofNat 5, .ofNat 1, .ready, 1, 1, by decide⟩], by decide⟩
  workerSessions := ⟨[⟨.ofNat 6, .ofNat 1, .ofNat 5, 1, .active, 1000⟩], by decide⟩
  identityCapacityLimits := ⟨[⟨.ofNat 1, "claude:verifier", 2, by decide, 1, true⟩,
    ⟨.ofNat 1, "codex:implementer", 1, by decide, 1, true⟩], by decide⟩

/-- The admission of that work item. -/
def sampleAdmission : AdmissionReservationRequest where
  reservationSetId := .ofNat 7
  tenantId := .ofNat 1
  workItemId := .ofNat 2
  attemptId := .ofNat 3
  repositoryId := .ofNat 4
  expectedRepositoryGeneration := 1
  workerId := .ofNat 5
  workerSessionId := .ofNat 6
  expectedWorkerGeneration := 1
  identities := [⟨sampleImplementer, 1, 1⟩, ⟨sampleReviewer, 2, 1⟩]
  budget := ⟨1, 1, 1, 1, 1, 1, 1, 1⟩
  expiresAt := ⟨1000000⟩
  actorId := "scheduler"
  idempotencyKey := "admission:1"

/-- Its release. -/
def sampleRelease : ReservationTransitionRequest where
  tenantId := .ofNat 1
  reservationSetId := .ofNat 7
  expectedFenceToken := 1
  actorId := "owner"
  reason := "done"
  idempotencyKey := "release:1"

/-- The `n`th request of a run that meets no trigger. -/
def sampleRequest (n : ℕ) (call : Call) : Request where
  pauses := fun _ => 0
  ids := fun k => .ofNat (1000 * n + k)
  verdict := fun _ => none
  call := call

/-- The release is applied, the same release again is adopted, and the two
    receipts differ. -/
theorem repeated_release_receipt_differs :
    let state := (ledger sampleCodec).run (initial 0 sampleConfig)
      [sampleRequest 1 (.acquire sampleAdmission)]
    let release := sampleRequest 2 (.release sampleRelease)
    ∃ first second, first ≠ second ∧
      (ledger sampleCodec).answer state release = .ok (.transition first) ∧
      (ledger sampleCodec).answer ((ledger sampleCodec).next state release) release =
        .ok (.transition second) := by
  -- the ninth identifier the release draws, after those of the eight entries
  refine ⟨transitionReceipt sampleRelease .released .applied (.ofNat 2008) 0,
    transitionReceipt sampleRelease .released .adopted (.ofNat 2008) 0, by decide, ?_⟩
  decide +kernel

end Asf.Reservations
