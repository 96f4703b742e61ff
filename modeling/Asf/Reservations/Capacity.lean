import Asf.Reservations.Settled

/-!
# Capacity safety

The active units of a resource are a sum over reservations whose set is
`ACTIVE` and unexpired. Time and terminal transitions only lower it; an
admission raises it by what its plan says, after it has checked that this fits.

Results:

* `Admitted.activeUnits_le`, `Settled.activeUnits_le`: what an effect does to
  the active units.
* `CapacityInv.effect`, `run_capacityInv`: the invariant of one step and of
  whole runs.
* `reservations_within_capacity`: no capacity is exceeded in any reachable
  state, and every admission fits its budget.
-/

namespace Asf.Reservations

open Lib AdmissionReservationRequest IdentityCapacityRequest

variable {codec : Codec} {s s' : Session Db}

/-! ## Keys -/

theorem repositoryResourceKey_injective : Function.Injective repositoryResourceKey := by
  intro a b h
  exact Uuid.toText_injective (by simpa [repositoryResourceKey, toString] using h)

theorem workerResourceKey_injective : Function.Injective workerResourceKey := by
  intro a b h
  exact Uuid.toText_injective (by simpa [workerResourceKey, toString] using h)

theorem identityResourceKey_eq_iff (profileRef : CtxlaneProfileRef) (value : String) :
    identityResourceKey profileRef = profileResourceKey value ↔ profileRef.value = value := by
  simp [identityResourceKey, profileResourceKey, toString]

/-! ## The plan of a request -/

theorem validateIdentities_nodup {seen : List CtxlaneProfileRef}
    {identities : List IdentityCapacityRequest} (h : validateIdentities seen identities = .ok ()) :
    (identities.map (·.profileRef)).Nodup ∧
      ∀ identity ∈ identities, identity.profileRef ∉ seen := by
  induction identities generalizing seen with
  | nil => simp
  | cons identity rest ih =>
    simp only [validateIdentities, failIf_bind_eq_ok_iff] at h
    obtain ⟨-, hseen, hrest⟩ := h
    obtain ⟨hnodup, hnew⟩ := ih hrest
    refine ⟨List.nodup_cons.mpr ⟨fun hmem => ?_, hnodup⟩, ?_⟩
    · obtain ⟨other, hother, heq⟩ := List.mem_map.mp hmem
      exact hnew other hother (heq ▸ List.mem_cons_self)
    · intro other hother
      rcases List.mem_cons.mp hother with rfl | hother
      · exact hseen
      · exact fun hmem => hnew other hother (List.mem_cons_of_mem _ hmem)

theorem profileRef_value_injective : Function.Injective CtxlaneProfileRef.value := by
  rintro ⟨a, _⟩ ⟨b, _⟩ rfl
  rfl

theorem validate_nodup {request : AdmissionReservationRequest}
    {identities : List IdentityCapacityRequest} (h : request.validate = .ok identities) :
    (identities.map (·.profileRef.value)).Nodup := by
  simp only [AdmissionReservationRequest.validate, bind_eq_ok_iff] at h
  obtain ⟨_, -, _, -, _, -, _, -, _, -, _, -, _, hvalid, hpure⟩ := h
  obtain rfl : sortIdentities request.identities = identities := Except.ok.inj hpure
  have := (validateIdentities_nodup hvalid).1.map profileRef_value_injective
  rwa [List.map_map] at this

variable {request : AdmissionReservationRequest} {identities : List IdentityCapacityRequest}
  {transition : ReservationTransitionRequest} {target : ReservationTerminalState}
  {kind : ReservationKind} {resourceKey : String} (clock : Timestamptz) (config : Config)

/-- The units a request reserves of one resource. -/
def AdmissionReservationRequest.plannedUnits (request : AdmissionReservationRequest)
    (identities : List IdentityCapacityRequest) (kind : ReservationKind) (resourceKey : String) :
    ℕ :=
  sumWhere (fun resource => resource.kind == kind && resource.resourceKey == resourceKey)
    Resource.units (request.plan identities)

/-- Rows of another kind do not count. -/
theorem sumWhere_other_kind {α : Type} {l : List α} {f : α → Resource}
    (h : ∀ a, (f a).kind ≠ kind) :
    sumWhere (fun resource => resource.kind == kind && resource.resourceKey == resourceKey)
      Resource.units (l.map f) = 0 := by
  apply sumWhere_eq_zero
  intro resource hmem
  obtain ⟨a, -, rfl⟩ := List.mem_map.mp hmem
  simp [h a]

theorem plannedUnits_repository (repositoryId : Uuid) :
    request.plannedUnits identities .repositoryWip (repositoryResourceKey repositoryId) =
      if request.repositoryId = repositoryId then 1 else 0 := by
  have hidentity : ∀ identity : IdentityCapacityRequest,
      identity.resource.kind ≠ .repositoryWip := fun _ => nofun
  have hbudget : ∀ d, (request.budgetResource d).kind ≠ .repositoryWip := fun _ => nofun
  rw [plannedUnits, plan, sumWhere_cons, sumWhere_cons, sumWhere_append, sumWhere_other_kind
    hidentity, sumWhere_other_kind hbudget]
  simp [repositoryResourceKey_injective.eq_iff]

theorem plannedUnits_worker (workerId : Uuid) :
    request.plannedUnits identities .workerSlot (workerResourceKey workerId) =
      if request.workerId = workerId then 1 else 0 := by
  have hidentity : ∀ identity : IdentityCapacityRequest,
      identity.resource.kind ≠ .workerSlot := fun _ => nofun
  have hbudget : ∀ d, (request.budgetResource d).kind ≠ .workerSlot := fun _ => nofun
  rw [plannedUnits, plan, sumWhere_cons, sumWhere_cons, sumWhere_append, sumWhere_other_kind
    hidentity, sumWhere_other_kind hbudget]
  simp [workerResourceKey_injective.eq_iff]

theorem plannedUnits_identity (value : String) :
    request.plannedUnits identities .identityCapacity (profileResourceKey value) =
      sumWhere (fun identity => decide (identity.profileRef.value = value)) units identities := by
  have hbudget : ∀ d, (request.budgetResource d).kind ≠ .identityCapacity := fun _ => nofun
  have hunits : Resource.units ∘ resource =
      units := rfl
  rw [plannedUnits, plan, sumWhere_cons, sumWhere_cons, sumWhere_append, sumWhere_other_kind
    hbudget, sumWhere_map, hunits]
  simp only [reduceCtorEq, beq_iff_eq, Bool.and_eq_true, false_and, if_false, zero_add, add_zero]
  apply sumWhere_congr
  intro identity _
  simp [resource, beq_eq_decide, identityResourceKey_eq_iff]

/-! ## What each effect does to the active units -/

/-- Every reservation belongs to a set (`FOREIGN KEY (tenant_id, reservation_set_id)`). -/
def RefsHold (db : Db) : Prop :=
  ∀ reservation ∈ db.reservations.rows,
    ∃ set ∈ db.reservationSets.rows, set.id = reservation.reservationSetId

theorem countsAt_iff {db : Db} {now : Timestamptz} {tenantId : Uuid} {reservation : Reservation} :
    db.countsAt now tenantId kind resourceKey reservation ↔
      reservation.tenantId = tenantId ∧ reservation.kind = kind ∧
        reservation.resourceKey = resourceKey ∧
        ∃ set ∈ db.reservationSets.rows, set.id = reservation.reservationSetId ∧
          set.tenantId = tenantId ∧ set.isLive now := by
  simp [Db.countsAt, Option.any_eq_true, tenantSet_eq_some_iff, and_assoc]

/-- Fewer live sets, fewer active units. -/
theorem activeUnits_le {db db' : Db} (hreservations : db'.reservations = db.reservations)
    {now : Timestamptz}
    (hlive : ∀ set ∈ db'.reservationSets.rows, set.isLive now → set ∈ db.reservationSets.rows)
    (tenantId : Uuid) (kind : ReservationKind) (resourceKey : String) :
    db'.activeUnits now tenantId kind resourceKey ≤
      db.activeUnits now tenantId kind resourceKey := by
  rw [Db.activeUnits, hreservations]
  apply sumWhere_mono
  intro reservation _ hcounts
  rw [countsAt_iff] at hcounts ⊢
  obtain ⟨htenant, hkind, hkey, set, hmem, hid, hset, hl⟩ := hcounts
  exact ⟨htenant, hkind, hkey, set, hlive set hmem hl, hid, hset, hl⟩

section

variable {set closed : ReservationSet} {entries : List BudgetEntry} {event : ReservationSetEvent}
  (h : Settled transition target s s' set closed entries event)

include h

theorem Settled.not_live
            (now : Timestamptz) : ¬ closed.isLive now := by
  obtain ⟨receiptId, occurredAt, rfl⟩ := h.closed_eq
  cases target <;> simp [ReservationSet.isLive, transitionedSet, terminalStateValue]

theorem Settled.activeUnits_le
            (now : Timestamptz) (tenantId : Uuid) (kind : ReservationKind) (resourceKey : String) :
    s'.db.activeUnits now tenantId kind resourceKey ≤
      s.db.activeUnits now tenantId kind resourceKey := by
  refine Reservations.activeUnits_le h.reservations (fun row hrow hlive => ?_) _ _ _
  rw [h.sets] at hrow
  obtain ⟨row₀, hrow₀, rfl⟩ := List.mem_map.mp hrow
  split_ifs at hlive ⊢ with hid
  · exact absurd hlive (h.not_live now)
  · exact hrow₀

end

section Admitted

variable {set : ReservationSet} {rows : List Reservation} {entries : List BudgetEntry}
  {event : ReservationSetEvent}

section

variable (h : Admitted codec request identities s s' set rows entries event)

include h

/-- An admission adds at most what its plan says. -/
theorem Admitted.activeUnits_le
    (hrefs : RefsHold s.db) (now : Timestamptz) (tenantId : Uuid) (kind : ReservationKind)
    (resourceKey : String) :
    s'.db.activeUnits now tenantId kind resourceKey ≤
      s.db.activeUnits now tenantId kind resourceKey +
        if request.tenantId = tenantId then request.plannedUnits identities kind resourceKey
        else 0 := by
  rw [Db.activeUnits, h.reservations, sumWhere_append]
  apply Nat.add_le_add
  · -- the new set is not the one of an old reservation
    apply sumWhere_mono
    intro reservation hreservation hcounts
    rw [countsAt_iff] at hcounts ⊢
    obtain ⟨htenant, hkind, hkey, row, hmem, hid, hrow⟩ := hcounts
    refine ⟨htenant, hkind, hkey, row, ?_, hid, hrow⟩
    rw [h.sets, List.mem_append, List.mem_singleton] at hmem
    refine hmem.resolve_right fun heq => ?_
    obtain ⟨old, hold, hidOld⟩ := hrefs reservation hreservation
    exact h.id_fresh old hold (hidOld.trans (hid.symm.trans (congrArg _ heq)))
  · split_ifs with htenant
    · rw [plannedUnits, ← h.planned.plan, sumWhere_map]
      apply sumWhere_mono
      intro row _ hcounts
      rw [countsAt_iff] at hcounts
      simp [Reservation.resource, hcounts.2.1, hcounts.2.2.1]
    · rw [sumWhere_eq_zero]
      intro row hrow hcounts
      rw [countsAt_iff] at hcounts
      exact htenant ((h.planned.owned row hrow).1.symm.trans hcounts.1)

theorem Admitted.refsHold (hrefs : RefsHold s.db) : RefsHold s'.db := by
  intro reservation hreservation
  rw [h.reservations, List.mem_append] at hreservation
  rw [h.sets]
  rcases hreservation with hold | hnew
  · obtain ⟨row, hrow, hid⟩ := hrefs reservation hold
    exact ⟨row, List.mem_append_left _ hrow, hid⟩
  · obtain ⟨digest, generation, acquiredAt, rfl⟩ := h.set_eq
    exact ⟨_, List.mem_append_right _ (List.mem_singleton_self _),
      (h.planned.owned reservation hnew).2.symm⟩

end

end Admitted

/-! ## The invariant -/

/-- No configured limit is exceeded at `now`. -/
def WithinLimits (now : Timestamptz) (db : Db) : Prop :=
  ∀ limit ∈ db.config.limits,
    (db.activeUnits now limit.tenantId limit.kind limit.resourceKey : ℤ) ≤ limit.capacity

theorem WithinLimits.mono {now later : Timestamptz} {db : Db} (hle : now ≤ later)
    (h : WithinLimits now db) : WithinLimits later db := by
  intro limit hlimit
  have := activeUnits_antitone db hle limit.tenantId limit.kind limit.resourceKey
  have := h limit hlimit
  omega

/-- With unchanged limits, no more active units keep the limits. -/
theorem WithinLimits.of_le {now : Timestamptz} {db db' : Db} (h : WithinLimits now db)
    (hlimits : db'.config.limits = db.config.limits)
    (hle : ∀ tenantId kind resourceKey, db'.activeUnits now tenantId kind resourceKey ≤
      db.activeUnits now tenantId kind resourceKey) : WithinLimits now db' := by
  intro limit hlimit
  have := hle limit.tenantId limit.kind limit.resourceKey
  have := h limit (hlimits ▸ hlimit)
  omega

theorem mem_limits_iff {config : Config} {limit : Limit} :
    limit ∈ config.limits ↔
      (∃ row ∈ config.repositories.rows, limit =
        ⟨row.tenantId, .repositoryWip, repositoryResourceKey row.id, row.wipLimit⟩) ∨
      (∃ row ∈ config.workers.rows, limit =
        ⟨row.tenantId, .workerSlot, workerResourceKey row.id, row.maxConcurrency⟩) ∨
      ∃ row ∈ config.identityCapacityLimits.rows, limit =
        ⟨row.tenantId, .identityCapacity, profileResourceKey row.profileRef, row.capacity⟩ := by
  simp only [Config.limits, List.mem_append, List.mem_map, or_assoc, eq_comm]

section Resources

variable {now : Timestamptz} {db : Db}

section

variable (h : WithinLimits now db)

include h

theorem WithinLimits.repository_le :
    ∀ row ∈ db.config.repositories.rows,
      (db.activeUnits now row.tenantId .repositoryWip (repositoryResourceKey row.id) : ℤ)
        ≤ row.wipLimit :=
  fun row hrow => h ⟨row.tenantId, .repositoryWip, repositoryResourceKey row.id, row.wipLimit⟩
    (mem_limits_iff.mpr (.inl ⟨row, hrow, rfl⟩))

theorem WithinLimits.worker_le :
    ∀ row ∈ db.config.workers.rows,
      (db.activeUnits now row.tenantId .workerSlot (workerResourceKey row.id) : ℤ)
        ≤ row.maxConcurrency :=
  fun row hrow => h ⟨row.tenantId, .workerSlot, workerResourceKey row.id, row.maxConcurrency⟩
    (mem_limits_iff.mpr (.inr (.inl ⟨row, hrow, rfl⟩)))

theorem WithinLimits.identity_le :
    ∀ row ∈ db.config.identityCapacityLimits.rows,
      (db.activeUnits now row.tenantId .identityCapacity (profileResourceKey row.profileRef) : ℤ)
        ≤ row.capacity :=
  fun row hrow => h
    ⟨row.tenantId, .identityCapacity, profileResourceKey row.profileRef, row.capacity⟩
    (mem_limits_iff.mpr (.inr (.inr ⟨row, hrow, rfl⟩)))

end

end Resources

section Admission

variable {set : ReservationSet} {rows : List Reservation} {entries : List BudgetEntry}
  {event : ReservationSetEvent}

section

variable (h : Admitted codec request identities s s' set rows entries event)

include h

/-- The identity units an admission adds fit below the row's capacity. -/
theorem Admitted.identity_fits
    (hvalid : request.validate = .ok identities) {row : IdentityCapacityLimit}
    (hrow : row ∈ s.db.config.identityCapacityLimits.rows)
    (htenant : request.tenantId = row.tenantId)
    (hwithin : (s.db.activeUnits s'.now row.tenantId .identityCapacity
      (profileResourceKey row.profileRef) : ℤ) ≤ row.capacity) :
    (s.db.activeUnits s'.now row.tenantId .identityCapacity (profileResourceKey row.profileRef) : ℤ)
      + request.plannedUnits identities .identityCapacity (profileResourceKey row.profileRef)
      ≤ row.capacity := by
  rw [plannedUnits_identity]
  by_cases hmem : ∃ identity ∈ identities, identity.profileRef.value = row.profileRef
  · obtain ⟨identity, hidentity, hvalue⟩ := hmem
    obtain ⟨context, hcontext, hfits⟩ := h.fits
    obtain ⟨entry, hentry, hprofile, hle⟩ := hfits.identity identity hidentity
    obtain ⟨row', hrow', htenant', hvalue', hcapacity⟩ := hcontext.identity entry hentry
    obtain rfl : row' = row := Table.eq_of_key_eq hrow' hrow
      (Prod.ext (htenant'.trans htenant) (hvalue'.trans (hprofile ▸ hvalue)))
    have hkey : identityResourceKey identity.profileRef = profileResourceKey row'.profileRef :=
      (identityResourceKey_eq_iff _ _).mpr hvalue
    have hsum := sumWhere_key (f := units) (validate_nodup hvalid) hidentity
    rw [hkey, htenant] at hle
    rw [hvalue] at hsum
    rw [hsum]
    omega
  · have hzero : sumWhere (fun identity => decide (identity.profileRef.value = row.profileRef))
        units identities = 0 :=
      sumWhere_eq_zero fun identity hidentity hvalue =>
        hmem ⟨identity, hidentity, of_decide_eq_true hvalue⟩
    rw [hzero]
    simpa using hwithin

theorem Admitted.withinLimits (hvalid : request.validate = .ok identities) (hrefs : RefsHold s.db)
    (hwithin : WithinLimits s.now s.db) : WithinLimits s'.now s'.db := by
  intro limit hlimit
  rw [h.config] at hlimit
  have hadd := h.activeUnits_le hrefs s'.now limit.tenantId limit.kind limit.resourceKey
  have hold := hwithin.mono h.now limit hlimit
  split_ifs at hadd with htenant
  · obtain ⟨context, hcontext, hfits⟩ := h.fits
    rcases mem_limits_iff.mp hlimit with ⟨row, hrow, rfl⟩ | ⟨row, hrow, rfl⟩ | ⟨row, hrow, rfl⟩
    · rw [plannedUnits_repository] at hadd
      split_ifs at hadd with hid
      · obtain ⟨row', hrow', hid', -, hcapacity⟩ := hcontext.repository
        obtain rfl : row' = row := Table.eq_of_key_eq hrow' hrow (hid'.trans hid)
        have hfree := hfits.repository
        rw [htenant, hid] at hfree
        simp only at hadd hfree ⊢
        omega
      · omega
    · rw [plannedUnits_worker] at hadd
      split_ifs at hadd with hid
      · obtain ⟨row', hrow', hid', -, hcapacity⟩ := hcontext.worker
        obtain rfl : row' = row := Table.eq_of_key_eq hrow' hrow (hid'.trans hid)
        have hfree := hfits.worker
        rw [htenant, hid] at hfree
        simp only at hadd hfree ⊢
        omega
      · omega
    · have := h.identity_fits hvalid hrow htenant hold
      simp only at hadd ⊢
      omega
  · omega

end

end Admission

/-- Every reservation has its set, and no limit is exceeded. -/
structure CapacityInv (now : Timestamptz) (db : Db) : Prop where
  refs : RefsHold db
  within : WithinLimits now db

/-- **One step.** -/
theorem CapacityInv.upkeep (hu : Upkeep s s') (h : CapacityInv s.now s.db) :
    CapacityInv s'.now s'.db := by
  cases hu with
  | reads hr =>
    rw [hr.db]
    exact ⟨h.refs, h.within.mono hr.now⟩
  | settled transition target set closed entries event hs =>
    refine ⟨?_, (h.within.mono hs.now).of_le (by rw [hs.config]) (hs.activeUnits_le s'.now)⟩
    intro reservation hreservation
    rw [hs.reservations] at hreservation
    obtain ⟨row, hrow, hid⟩ := h.refs reservation hreservation
    by_cases heq : row.id = set.id
    · exact ⟨closed, hs.mem_sets.mpr (.inl rfl), hs.closed_id.trans (heq.symm.trans hid)⟩
    · exact ⟨row, hs.mem_sets.mpr (.inr ⟨hrow, heq⟩), hid⟩
  | configured config hlimits hs =>
    subst hs
    exact ⟨h.refs, h.within.of_le hlimits fun _ _ _ => le_rfl⟩
  | consumed entry htype hg =>
    have hreservations : s'.db.reservations = s.db.reservations :=
      Table.ext' (by simpa using hg.reservations)
    refine ⟨?_, ?_⟩
    · intro reservation hreservation
      rw [hreservations] at hreservation
      rw [hg.reservationSets]
      exact h.refs reservation hreservation
    · rw [hg.now]
      exact h.within.of_le (by rw [hg.config]) (activeUnits_le hreservations
        fun set hset _ => hg.reservationSets ▸ hset)

theorem CapacityInv.effect (he : Effect codec s s') (h : CapacityInv s.now s.db) :
    CapacityInv s'.now s'.db := by
  cases he with
  | admitted request identities set rows entries event hvalid ha =>
    exact ⟨ha.refsHold h.refs, ha.withinLimits hvalid h.refs h.within⟩
  | upkeep hu => exact h.upkeep hu

theorem capacityInv_initial : CapacityInv clock (initial clock config).db := by
  refine ⟨fun reservation h => absurd h (by simp [initial, Table.empty]), ?_⟩
  intro limit hlimit
  have hzero : (initial clock config).db.activeUnits clock limit.tenantId limit.kind
      limit.resourceKey = 0 := rfl
  rw [hzero]
  rcases mem_limits_iff.mp hlimit with ⟨row, -, rfl⟩ | ⟨row, -, rfl⟩ | ⟨row, -, rfl⟩
  · exact row.wipLimit_pos.le
  · exact row.maxConcurrency_pos.le
  · exact row.capacity_pos.le

/-- **Whole runs.** -/
theorem run_capacityInv (l : List Request) :
    CapacityInv ((ledger codec).run (initial clock config) l).clock
      ((ledger codec).run (initial clock config) l).db :=
  run_invariant_of_effect (fun _ _ he h => h.effect he) (capacityInv_initial clock config) l

/-- What a successful answer to `acquire_admission_reservations` means. -/
theorem perform_acquire {state : State} {i : Request} (hcall : i.call = .acquire request)
    {receipt : AdmissionReservationReceipt}
    (h : (ledger codec).answer state i = .ok (.admission receipt)) :
    ∃ s', Commits (acquireAdmissionReservations codec request) (i.session state) receipt s' ∧
      (ledger codec).next state i = ⟨s'.now, s'.db⟩ := by
  obtain ⟨s', hcommits, hnext⟩ := commits_of_answer h
  rw [hcall] at hcommits
  obtain ⟨receipt', hcommits, hanswer⟩ := commits_map.mp hcommits
  obtain rfl := Answer.admission.inj hanswer
  exact ⟨s', hcommits, hnext⟩

/-- **Reservation capacity safety.** After any run from an empty ledger, and at
    any later time, the units of the sets that are `ACTIVE` and unexpired do not
    exceed the capacity of any repository, worker or identity. An admission
    that acquires finds, for every budget dimension, that consumption, active
    sets and the requested amount together stay within the work item's limit;
    one that adopts leaves the tables alone. -/
theorem reservations_within_capacity (codec : Codec) (clock : Timestamptz) (config : Config)
    (l : List Request) :
    let state := (ledger codec).run (initial clock config) l
    (∀ now, state.clock ≤ now →
      (∀ row ∈ state.db.config.repositories.rows,
        (state.db.activeUnits now row.tenantId .repositoryWip (repositoryResourceKey row.id) : ℤ)
          ≤ row.wipLimit) ∧
      (∀ row ∈ state.db.config.workers.rows,
        (state.db.activeUnits now row.tenantId .workerSlot (workerResourceKey row.id) : ℤ)
          ≤ row.maxConcurrency) ∧
      ∀ row ∈ state.db.config.identityCapacityLimits.rows,
        (state.db.activeUnits now row.tenantId .identityCapacity
          (profileResourceKey row.profileRef) : ℤ) ≤ row.capacity) ∧
    ∀ (i : Request) (request : AdmissionReservationRequest)
      (receipt : AdmissionReservationReceipt), i.call = .acquire request →
      (ledger codec).answer state i = .ok (.admission receipt) →
      let state' := (ledger codec).next state i
      (receipt.disposition = .acquired → ∃ workItem budgetValue limits,
        state.db.workItem request.tenantId request.workItemId = some workItem ∧
        workItem.budgetLimits = some budgetValue ∧ codec.budgetLimits budgetValue = .ok limits ∧
        ∀ dimension, state.db.consumedUnits request.tenantId request.workItemId dimension
          + state.db.activeUnits state'.clock request.tenantId .budget
            (budgetResourceKey request.workItemId dimension)
          + request.budget.amount dimension ≤ budgetLimit limits dimension) ∧
      (receipt.disposition = .adopted → state'.db = state.db) := by
  intro state
  have hinv : CapacityInv state.clock state.db := run_capacityInv clock config l
  refine ⟨fun now hnow => ?_, fun i request receipt hcall hanswer => ?_⟩
  · have hwithin := hinv.within.mono hnow
    exact ⟨hwithin.repository_le, hwithin.worker_le, hwithin.identity_le⟩
  · obtain ⟨s', hcommits, hnext⟩ := perform_acquire hcall hanswer
    rw [hnext]
    rcases acquireAdmissionReservations_cases hcommits with ⟨hadopted, hreads⟩ |
      ⟨hacquired, identities, -, set, rows, entries, event, hadmitted⟩
    · exact ⟨fun h => absurd (hadopted.symm.trans h) (by decide), fun _ => hreads.db⟩
    · refine ⟨fun _ => ?_, fun h => absurd (hacquired.symm.trans h) (by decide)⟩
      obtain ⟨context, hcontext, hfits⟩ := hadmitted.fits
      obtain ⟨workItem, budgetValue, hitem, hvalue, hlimits⟩ := hcontext.budget
      exact ⟨workItem, budgetValue, context.budgetLimits, hitem, hvalue, hlimits, hfits.budget⟩

end Asf.Reservations
