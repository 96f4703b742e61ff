import Asf.Reservations.Admission

/-!
# What a committed admission has read and written

Results:

* `loadAndValidateContext_reads`: the capacities an admission works with are
  those of the rows it names.
* `enforceCapacity_reads`: the request fits, at the time of the last check.
* `insertResourcesAndBudgetLedger_grows`: the rows it inserts are the plan of
  the request, with one `RESERVE` entry per budget reservation.
* `acquireAdmissionReservations_cases`: an admission adopts the set its key
  names and writes nothing, or admits a new set.
-/

namespace Asf.Reservations

open Lib
open Except (ok mapError)
open Prod (mk)

variable {n generation capacity : ℕ} {u : Unit} {identity : IdentityCapacityRequest}
  {later now occurredAt : Timestamptz} {kind : ReservationKind} {tenantId : Uuid}
  {resourceKey : String} {db db' : Db} {dimension : ReservationBudgetDimension}
  {receipt : AdmissionReservationReceipt}

variable {s s' : Session Db}

/-! ## Reading transactions -/

theorem positiveU64_eq_ok {value : ℤ} (h : positiveU64 value = .ok n) : (n : ℤ) = value := by
  unfold positiveU64 at h
  split_ifs at h with h₁ h₂
  obtain rfl := ok.inj h
  exact Int.toNat_of_nonneg (not_lt.mp h₁)

theorem i64TryFrom_eq_ok_iff {value : ℕ} {error : Error} {n : ℤ} :
    i64TryFrom value error = .ok n ↔ (value : ℤ) ≤ i64Max ∧ n = value := by
  unfold i64TryFrom
  split_ifs with h
  · simp only [ok.injEq, h, true_and]
    exact eq_comm
  · simp [h]

theorem parseU64_eq_ok {value : ℕ} {context : String} (h : parseU64 value context = .ok n) :
    n = value := by
  unfold parseU64 at h
  split_ifs at h
  exact (ok.inj h).symm

theorem checkedAdd_eq_some {a b c : ℕ} (h : checkedAdd a b = some c) : c = a + b := by
  unfold checkedAdd at h
  split_ifs at h
  exact (Option.some.inj h).symm

variable {codec : Codec} {request : AdmissionReservationRequest}
  {identities : List IdentityCapacityRequest}

theorem checkTenant_reads (h : Commits (checkTenant request) s u s') : Reads s s' := by
  simp only [checkTenant, commits_select_bind, commits_orFail_bind, commits_reject] at h
  obtain ⟨_, _, _, rfl⟩ := h
  exact .refl _

theorem checkWorkItem_reads {limits : BudgetLimits}
    (h : Commits (checkWorkItem codec request identities) s limits s') :
    Reads s s' ∧ ∃ workItem budgetValue, s.db.workItem request.tenantId request.workItemId =
      some workItem ∧ workItem.budgetLimits = some budgetValue ∧
      codec.budgetLimits budgetValue = .ok limits := by
  simp only [checkWorkItem, commits_select_bind, commits_orFail_bind, commits_reject_bind,
    commits_ofExcept_bind, commits_pure] at h
  obtain ⟨workItem, hitem, -, value, hvalue, decoded, hlimits, _, -, _, -, _, -, _, -, _, -, rfl,
    rfl⟩ := h
  refine ⟨.refl _, workItem, value, hitem, ?_, ?_⟩
  · cases hb : workItem.budgetLimits with
    | none => simp [requiredColumn, hb] at hvalue
    | some v => simpa [requiredColumn, hb] using hvalue
  · cases hl : codec.budgetLimits value with
    | error e => simp [mapError, hl] at hlimits
    | ok l => simpa [mapError, hl] using hlimits

theorem checkAttempt_reads (h : Commits (checkAttempt request) s n s') : Reads s s' := by
  simp only [checkAttempt, commits_select_bind, commits_orFail_bind, commits_reject_bind,
    commits_ofExcept] at h
  obtain ⟨_, -, -, -, rfl⟩ := h
  exact .refl _

theorem checkRepository_reads (h : Commits (checkRepository request) s (capacity, generation) s') :
    Reads s s' ∧ ∃ row ∈ s.db.config.repositories.rows, row.id = request.repositoryId ∧
      row.tenantId = request.tenantId ∧ (capacity : ℤ) = row.wipLimit := by
  simp only [checkRepository, commits_select_bind, commits_orFail_bind, commits_reject_bind,
    commits_ofExcept_bind, commits_pure, Option.filter_eq_some_iff, beq_iff_eq, mk.injEq] at h
  obtain ⟨row, ⟨hrow, htenant⟩, _, hcap, _, -, -, ⟨rfl, -⟩, rfl⟩ := h
  exact ⟨.refl _, row, Table.mem_of_find? hrow, Table.key_of_find? hrow, htenant,
    positiveU64_eq_ok hcap⟩

theorem checkWorker_reads (h : Commits (checkWorker request) s (capacity, generation) s') :
    Reads s s' ∧ ∃ row ∈ s.db.config.workers.rows, row.id = request.workerId ∧
      row.tenantId = request.tenantId ∧ (capacity : ℤ) = row.maxConcurrency := by
  simp only [checkWorker, commits_select_bind, commits_orFail_bind, commits_reject_bind,
    commits_ofExcept_bind, commits_pure, Option.filter_eq_some_iff, beq_iff_eq, mk.injEq] at h
  obtain ⟨row, ⟨hrow, htenant⟩, _, hcap, _, -, -, ⟨rfl, -⟩, rfl⟩ := h
  exact ⟨.refl _, row, Table.mem_of_find? hrow, Table.key_of_find? hrow, htenant,
    positiveU64_eq_ok hcap⟩

theorem checkWorkerSession_reads (h : Commits (checkWorkerSession request) s u s') :
    Reads s s' := by
  simp only [checkWorkerSession, commits_select_bind, commits_orFail_bind, commits_reject,
    commits_ofExcept_bind, commits_clockTimestamp_bind] at h
  obtain ⟨_, -, _, -, -, rfl⟩ := h
  exact .tick _

/-- The entry has the limit of an identity's row. -/
def IdentityLimit (request : AdmissionReservationRequest) (db : Db)
    (entry : CtxlaneProfileRef × ℕ × ℕ) : Prop :=
  ∃ row ∈ db.config.identityCapacityLimits.rows, row.tenantId = request.tenantId ∧
    row.profileRef = entry.1.value ∧ (entry.2.1 : ℤ) = row.capacity

theorem checkIdentity_reads {entry : CtxlaneProfileRef × ℕ × ℕ}
    (h : Commits (checkIdentity request identity) s entry s') :
    Reads s s' ∧ IdentityLimit request s.db entry := by
  simp only [checkIdentity, commits_select_bind, commits_orFail_bind, commits_reject_bind,
    commits_ofExcept_bind, commits_pure] at h
  obtain ⟨row, hrow, _, hcap, _, -, -, rfl, rfl⟩ := h
  have hkey : row.key = (request.tenantId, identity.profileRef.value) := Table.key_of_find? hrow
  obtain ⟨htenant, hprofile⟩ := mk.inj hkey
  exact ⟨.refl _, row, Table.mem_of_find? hrow, htenant, hprofile, positiveU64_eq_ok hcap⟩

/-- The limits an admission read are those of the rows it names. -/
structure ContextOf (codec : Codec) (request : AdmissionReservationRequest) (db : Db)
    (context : AdmissionContext) : Prop where
  repository : ∃ row ∈ db.config.repositories.rows, row.id = request.repositoryId ∧
    row.tenantId = request.tenantId ∧ (context.repositoryCapacity : ℤ) = row.wipLimit
  worker : ∃ row ∈ db.config.workers.rows, row.id = request.workerId ∧
    row.tenantId = request.tenantId ∧ (context.workerCapacity : ℤ) = row.maxConcurrency
  identity : ∀ entry ∈ context.identityCapacities,
    ∃ row ∈ db.config.identityCapacityLimits.rows, row.tenantId = request.tenantId ∧
      row.profileRef = entry.1.value ∧ (entry.2.1 : ℤ) = row.capacity
  budget : ∃ workItem budgetValue, db.workItem request.tenantId request.workItemId =
    some workItem ∧ workItem.budgetLimits = some budgetValue ∧
    codec.budgetLimits budgetValue = .ok context.budgetLimits

theorem checkIdentities_reads {entries : List (CtxlaneProfileRef × ℕ × ℕ)}
    (h : Commits (identities.mapM (checkIdentity request)) s entries s') :
    Reads s s' ∧ ∀ entry ∈ entries, IdentityLimit request s.db entry := by
  refine mapM_invariant (fun _ entries s₁ => Reads s s₁ ∧ ∀ entry ∈ entries,
    IdentityLimit request s.db entry) ?_ ⟨.refl s, by simp⟩ h
  intro _ entries identity s₁ entry s₂ ⟨hreads, hentries⟩ hentry
  obtain ⟨hreads₂, hrow⟩ := checkIdentity_reads hentry
  rw [hreads.db] at hrow
  refine ⟨hreads.trans hreads₂, fun e he => ?_⟩
  rcases List.mem_append.mp he with he | he
  · exact hentries e he
  · rw [List.mem_singleton.mp he]
    exact hrow

theorem loadAndValidateContext_reads
    (h : Commits (loadAndValidateContext codec request identities) s context s') :
    Reads s s' ∧ ContextOf codec request s.db context := by
  simp only [loadAndValidateContext, commits_bind, commits_pure] at h
  obtain ⟨_, s₁, htenant, limits, s₂, hitem, _, s₃, hattempt, ⟨_, _⟩, s₄, hrepo, ⟨_, _⟩, s₅,
    hworker, _, s₆, hsession, entries, s₇, hentries, rfl, rfl⟩ := h
  have h₁ := checkTenant_reads htenant
  obtain ⟨h₂, hbudget⟩ := checkWorkItem_reads hitem
  have h₃ := checkAttempt_reads hattempt
  obtain ⟨h₄, hrepository⟩ := checkRepository_reads hrepo
  obtain ⟨h₅, hworkers⟩ := checkWorker_reads hworker
  have h₆ := checkWorkerSession_reads hsession
  obtain ⟨h₇, hidentities⟩ := checkIdentities_reads hentries
  have r₂ := h₁.trans h₂
  have r₄ := (r₂.trans h₃).trans h₄
  have r₆ := (r₄.trans h₅).trans h₆
  rw [h₁.db] at hbudget
  rw [(r₂.trans h₃).db] at hrepository
  rw [r₄.db] at hworkers
  rw [r₆.db] at hidentities
  exact ⟨r₆.trans h₇, hrepository, hworkers, hidentities, hbudget⟩

/-! ## Capacity -/

theorem ReservationSet.isLive_antitone {set : ReservationSet} (h : now ≤ later)
    (hlive : set.isLive later) : set.isLive now := by
  simp only [ReservationSet.isLive, Bool.and_eq_true, decide_eq_true_eq] at hlive ⊢
  exact ⟨hlive.1, lt_of_le_of_lt h hlive.2⟩

/-- Time only frees capacity. -/
theorem activeUnits_antitone (db : Db) (h : now ≤ later) (tenantId : Uuid)
    (kind : ReservationKind) (resourceKey : String) :
    db.activeUnits later tenantId kind resourceKey ≤
      db.activeUnits now tenantId kind resourceKey := by
  apply sumWhere_mono
  intro reservation _ hcounts
  simp only [Db.countsAt, Bool.and_eq_true, Option.any_eq_true] at hcounts ⊢
  obtain ⟨hrow, set, hset, hlive⟩ := hcounts
  exact ⟨hrow, set, hset, set.isLive_antitone h hlive⟩

theorem activeReservedUnits_reads
    (h : Commits (activeReservedUnits tenantId kind resourceKey) s n s') :
    Reads s s' ∧ n = s.db.activeUnits s'.now tenantId kind resourceKey := by
  simp only [activeReservedUnits, commits_clockTimestamp_bind, commits_select_bind,
    commits_ofExcept] at h
  obtain ⟨hparse, rfl⟩ := h
  exact ⟨.tick s, parseU64_eq_ok hparse⟩

theorem requireCapacity_reads {requested : ℕ}
    (h : Commits (requireCapacity tenantId kind resourceKey requested capacity) s u s') :
    Reads s s' ∧ s.db.activeUnits s'.now tenantId kind resourceKey + requested ≤ capacity := by
  rw [requireCapacity, commits_bind] at h
  obtain ⟨active, s₁, hactive, hreject⟩ := h
  obtain ⟨hreads, rfl⟩ := activeReservedUnits_reads hactive
  obtain ⟨hfits, rfl⟩ := commits_reject.mp hreject
  refine ⟨hreads, ?_⟩
  cases hadd : checkedAdd (s.db.activeUnits s'.now tenantId kind resourceKey) requested with
  | none => simp [hadd] at hfits
  | some total =>
    rw [← checkedAdd_eq_some hadd]
    simpa [hadd] using hfits

variable {context : AdmissionContext} {reservationSetId : Uuid} (row : Reservation) {id : Uuid}
  {α : Type}

/-- An identity's units fit into what its entry of the context leaves free. -/
def IdentityFits (request : AdmissionReservationRequest) (context : AdmissionContext) (db : Db)
    (identity : IdentityCapacityRequest) (now : Timestamptz) : Prop :=
  ∃ entry ∈ context.identityCapacities, entry.1 = identity.profileRef ∧
    db.activeUnits now request.tenantId .identityCapacity
      (identityResourceKey identity.profileRef) + identity.units ≤ entry.2.1

/-- A dimension's amount fits into what consumption and active sets leave free. -/
def BudgetFits (request : AdmissionReservationRequest) (context : AdmissionContext) (db : Db)
    (dimension : ReservationBudgetDimension) (now : Timestamptz) : Prop :=
  db.consumedUnits request.tenantId request.workItemId dimension
    + db.activeUnits now request.tenantId .budget (budgetResourceKey request.workItemId dimension)
    + request.budget.amount dimension ≤ budgetLimit context.budgetLimits dimension

theorem IdentityFits.mono (hle : now ≤ later) (h : IdentityFits request context db identity now) :
    IdentityFits request context db identity later := by
  obtain ⟨entry, hentry, hprofile, hfits⟩ := h
  have := activeUnits_antitone db hle request.tenantId .identityCapacity
    (identityResourceKey identity.profileRef)
  exact ⟨entry, hentry, hprofile, by omega⟩

theorem BudgetFits.mono (hle : now ≤ later) (h : BudgetFits request context db dimension now) :
    BudgetFits request context db dimension later := by
  have := activeUnits_antitone db hle request.tenantId .budget
    (budgetResourceKey request.workItemId dimension)
  unfold BudgetFits at h ⊢
  omega

theorem requireIdentityCapacity_reads
    (h : Commits (requireIdentityCapacity request context identity) s u s') :
    Reads s s' ∧ IdentityFits request context s.db identity s'.now := by
  simp only [requireIdentityCapacity, AdmissionContext.identity, commits_orFail_bind] at h
  obtain ⟨entry, hlookup, hcapacity⟩ := h
  obtain ⟨hreads, hfits⟩ := requireCapacity_reads hcapacity
  obtain ⟨l₁, l₂, heq, -⟩ := List.lookup_eq_some_iff.mp hlookup
  exact ⟨hreads, (identity.profileRef, entry), by simp [heq], rfl, hfits⟩

theorem requireBudget_reads (h : Commits (requireBudget request context dimension) s u s') :
    Reads s s' ∧ BudgetFits request context s.db dimension s'.now := by
  simp only [requireBudget, consumedBudget, bind_assoc] at h
  obtain ⟨active, s₁, hactive, h⟩ := commits_bind.mp h
  obtain ⟨hreads, rfl⟩ := activeReservedUnits_reads hactive
  simp only [commits_select_bind, commits_ofExcept_bind, commits_orFail_bind,
    commits_reject, Option.bind_eq_some_iff] at h
  obtain ⟨consumed, hparse, committed, ⟨sum, hsum, hadd⟩, hlimit, rfl⟩ := h
  rw [parseU64_eq_ok hparse, hreads.db] at hsum
  rw [checkedAdd_eq_some hadd, checkedAdd_eq_some hsum] at hlimit
  exact ⟨hreads, not_lt.mp hlimit⟩

/-- A loop of reading transactions, each of which finds something that time does
    not take back. -/
theorem forM_reads {f : α → Tx Db PUnit} {P : α → Timestamptz → Prop}
    (hf : ∀ a s₁ u s₂, s₁.db = s.db → Commits (f a) s₁ u s₂ → Reads s₁ s₂ ∧ P a s₂.now)
    (hmono : ∀ a now later, now ≤ later → P a now → P a later)
    {l : List α} {u : PUnit} (h : Commits (l.forM f) s u s') :
    Reads s s' ∧ ∀ a ∈ l, P a s'.now := by
  refine forM_invariant (fun done s₁ => Reads s s₁ ∧ ∀ a ∈ done, P a s₁.now) ?_ ⟨.refl s, by simp⟩ h
  intro done a s₁ s₂ u ⟨hreads, hdone⟩ ha
  obtain ⟨hreads₂, hP⟩ := hf a s₁ u s₂ hreads.db ha
  refine ⟨hreads.trans hreads₂, fun b hb => ?_⟩
  rcases List.mem_append.mp hb with hb | hb
  · exact hmono b _ _ hreads₂.now (hdone b hb)
  · rw [List.mem_singleton.mp hb]
    exact hP

/-- A request fits into what is free at `now`. -/
structure Fits (request : AdmissionReservationRequest) (identities : List IdentityCapacityRequest)
    (context : AdmissionContext) (db : Db) (now : Timestamptz) : Prop where
  repository : db.activeUnits now request.tenantId .repositoryWip
    (repositoryResourceKey request.repositoryId) + 1 ≤ context.repositoryCapacity
  worker : db.activeUnits now request.tenantId .workerSlot
    (workerResourceKey request.workerId) + 1 ≤ context.workerCapacity
  identity : ∀ identity ∈ identities, IdentityFits request context db identity now
  budget : ∀ dimension, BudgetFits request context db dimension now

theorem Fits.mono (hle : now ≤ later) (h : Fits request identities context db now) :
    Fits request identities context db later where
  repository := (Nat.add_le_add_right (activeUnits_antitone db hle _ _ _) 1).trans h.repository
  worker := (Nat.add_le_add_right (activeUnits_antitone db hle _ _ _) 1).trans h.worker
  identity identity hmem := (h.identity identity hmem).mono hle
  budget dimension := (h.budget dimension).mono hle

theorem enforceCapacity_reads (h : Commits (enforceCapacity request identities context) s u s') :
    Reads s s' ∧ Fits request identities context s.db s'.now := by
  simp only [enforceCapacity, commits_bind] at h
  obtain ⟨_, s₁, hrepo, _, s₂, hworker, _, s₃, hidentities, hbudgets⟩ := h
  obtain ⟨r₁, hrepo⟩ := requireCapacity_reads hrepo
  obtain ⟨r₂, hworker⟩ := requireCapacity_reads hworker
  have r₁₂ := r₁.trans r₂
  obtain ⟨r₃, hidentities⟩ := forM_reads (P := IdentityFits request context s.db)
    (fun identity t u t' hdb hc => by
      have := requireIdentityCapacity_reads hc
      rwa [hdb, r₁₂.db] at this)
    (fun _ _ _ hle => IdentityFits.mono hle) hidentities
  have r₁₃ := r₁₂.trans r₃
  obtain ⟨r₄, hbudgets⟩ := forM_reads (P := BudgetFits request context s.db)
    (fun d t u t' hdb hc => by
      have := requireBudget_reads hc
      rwa [hdb, r₁₃.db] at this)
    (fun _ _ _ hle => BudgetFits.mono hle) hbudgets
  refine ⟨r₁₃.trans r₄, ?_, ?_, ?_, fun d => hbudgets d d.mem_all⟩
  · have := activeUnits_antitone s.db ((r₂.trans r₃).trans r₄).now request.tenantId
      .repositoryWip (repositoryResourceKey request.repositoryId)
    omega
  · rw [r₁.db] at hworker
    have := activeUnits_antitone s.db (r₃.trans r₄).now request.tenantId .workerSlot
      (workerResourceKey request.workerId)
    omega
  · exact fun identity hmem => (hidentities identity hmem).mono r₄.now

/-! ## Inserts -/

/-- The reservations and ledger entries a transaction has added. -/
structure Grows (s s' : Session Db) (reservations : List Reservation)
    (entries : List BudgetEntry) : Prop where
  now : s'.now = s.now
  config : s'.db.config = s.db.config
  reservationSets : s'.db.reservationSets = s.db.reservationSets
  setEvents : s'.db.setEvents = s.db.setEvents
  reservations : s'.db.reservations.rows = s.db.reservations.rows ++ reservations
  budgetLedger : s'.db.budgetLedger.rows = s.db.budgetLedger.rows ++ entries

theorem Grows.refl (s : Session Db) : Grows s s [] [] := ⟨rfl, rfl, rfl, rfl, by simp, by simp⟩

theorem Grows.trans {s₁ s₂ : Session Db} {rs rs' : List Reservation} {es es' : List BudgetEntry}
    (h : Grows s s₁ rs es) (h' : Grows s₁ s₂ rs' es') : Grows s s₂ (rs ++ rs') (es ++ es') where
  now := h'.now.trans h.now
  config := h'.config.trans h.config
  reservationSets := h'.reservationSets.trans h.reservationSets
  setEvents := h'.setEvents.trans h.setEvents
  reservations := by rw [h'.reservations, h.reservations, List.append_assoc]
  budgetLedger := by rw [h'.budgetLedger, h.budgetLedger, List.append_assoc]

theorem rows_of_insert? {α κ : Type} {key : α → κ} [DecidableEq κ] {t t' : Table α key} {row : α}
    (h : t.insert? row = some t') : t'.rows = t.rows ++ [row] := by
  obtain ⟨hnew, rfl⟩ := Table.insert?_eq_some_iff.mp h
  exact Table.rows_insert row hnew

theorem insertReservation_eq_ok {reservation : Reservation}
    (h : db.insertReservation reservation = .ok (u, db')) :
    ∃ reservations, reservations.rows = db.reservations.rows ++ [reservation] ∧
      db' = { db with reservations } := by
  unfold Db.insertReservation at h
  split at h
  · cases h
  · rename_i hinsert
    exact ⟨_, rows_of_insert? hinsert, (mk.inj (ok.inj h)).2.symm⟩

theorem insertEntry_eq_ok {entry : BudgetEntry} (h : db.insertEntry entry = .ok (u, db')) :
    ∃ budgetLedger, budgetLedger.rows = db.budgetLedger.rows ++ [entry] ∧
      db' = { db with budgetLedger } := by
  unfold Db.insertEntry at h
  split at h
  · cases h
  · rename_i hinsert
    exact ⟨_, rows_of_insert? hinsert, (mk.inj (ok.inj h)).2.symm⟩

/-- What a reservation reserves. -/
structure Resource where
  kind : ReservationKind
  resourceKey : String
  budgetDimension : Option ReservationBudgetDimension
  units : ℕ

/-- What the row reserves. -/
def Reservation.resource : Resource :=
  ⟨row.kind, row.resourceKey, row.budgetDimension, row.units⟩

/-- The row belongs to the set a request admits. -/
def Reservation.IsOf (request : AdmissionReservationRequest) (row : Reservation) : Prop :=
  row.tenantId = request.tenantId ∧ row.reservationSetId = request.reservationSetId

theorem insertResource_grows {budgetDimension : Option ReservationBudgetDimension} {units : ℕ}
   
    (h : Commits (insertResource request kind resourceKey budgetDimension units generation)
      s id s') :
    ∃ row, Grows s s' [row] [] ∧ row.id = id ∧ row.IsOf request ∧
      row.resource = ⟨kind, resourceKey, budgetDimension, units⟩ := by
  simp only [insertResource, commits_nowV7_bind, commits_ofExcept_bind, commits_execute_bind,
    commits_pure] at h
  obtain ⟨_, -, _, -, -, _, db, hinsert, rfl, rfl⟩ := h
  obtain ⟨reservations, hrows, rfl⟩ := insertReservation_eq_ok hinsert
  exact ⟨_, ⟨rfl, rfl, rfl, rfl, hrows, by simp⟩, rfl, ⟨rfl, rfl⟩, rfl⟩

/-- The reservation, dimension and amount of a ledger entry. -/
def BudgetEntry.link (entry : BudgetEntry) : Option Uuid × Option ReservationBudgetDimension × ℕ :=
  (entry.reservationId, some entry.dimension, entry.amount)

/-- The same coordinates of a budget reservation. -/
def Reservation.link : Option Uuid × Option ReservationBudgetDimension × ℕ :=
  (some row.id, row.budgetDimension, row.units)

theorem insertBudgetEntry_grows {workItemId attemptId reservationId : Uuid}
    {entryType : EntryType} {amount : ℕ} {idempotencyKey : String} {metadata : Json}
    (h : Commits (insertBudgetEntry tenantId workItemId attemptId reservationId dimension entryType
      amount idempotencyKey metadata occurredAt) s u s') :
    ∃ entry, Grows s s' [] [entry] ∧ entry.tenantId = tenantId ∧ entry.entryType = entryType ∧
      entry.link = (some reservationId, some dimension, amount) := by
  simp only [insertBudgetEntry, commits_nowV7_bind, commits_ofExcept_bind, commits_execute] at h
  obtain ⟨_, -, -, db, hinsert, rfl⟩ := h
  obtain ⟨budgetLedger, hrows, rfl⟩ := insertEntry_eq_ok hinsert
  exact ⟨_, ⟨rfl, rfl, rfl, rfl, by simp, hrows⟩, rfl, rfl, rfl⟩

/-- What an identity's reservation reserves. -/
def IdentityCapacityRequest.resource (identity : IdentityCapacityRequest) : Resource :=
  ⟨.identityCapacity, identityResourceKey identity.profileRef, none, identity.units⟩

/-- What a dimension's reservation reserves. -/
def AdmissionReservationRequest.budgetResource (request : AdmissionReservationRequest)
    (dimension : ReservationBudgetDimension) : Resource :=
  ⟨.budget, budgetResourceKey request.workItemId dimension, some dimension,
    request.budget.amount dimension⟩

/-- Everything an admitted set reserves. -/
def AdmissionReservationRequest.plan (request : AdmissionReservationRequest)
    (identities : List IdentityCapacityRequest) : List Resource :=
  ⟨.repositoryWip, repositoryResourceKey request.repositoryId, none, 1⟩ ::
    ⟨.workerSlot, workerResourceKey request.workerId, none, 1⟩ ::
      (identities.map (·.resource) ++ ReservationBudgetDimension.all.map request.budgetResource)

theorem insertIdentities_grows {u : PUnit}
    (h : Commits (identities.forM (insertIdentity request context)) s u s') :
    ∃ rows, Grows s s' rows [] ∧ (∀ row ∈ rows, row.IsOf request) ∧
      rows.map (·.resource) = identities.map (·.resource) := by
  refine forM_invariant (fun done s₁ => ∃ rows, Grows s s₁ rows [] ∧
    (∀ row ∈ rows, row.IsOf request) ∧ rows.map (·.resource) = done.map (·.resource)) ?_
    ⟨[], .refl s, by simp, rfl⟩ h
  intro done identity s₁ s₂ u ⟨rows, hgrows, hof, hplan⟩ hinsert
  simp only [insertIdentity, AdmissionContext.identity, commits_orFail_bind] at hinsert
  obtain ⟨_, -, hinsert⟩ := hinsert
  obtain ⟨_, _, hresource, hpure⟩ := commits_bind.mp hinsert
  obtain ⟨-, rfl⟩ := commits_pure.mp hpure
  obtain ⟨row, hrow, -, hrowOf, hres⟩ := insertResource_grows hresource
  refine ⟨rows ++ [row], by simpa using hgrows.trans hrow, ?_, ?_⟩
  · simpa [or_imp, forall_and] using ⟨hof, hrowOf⟩
  · rw [List.map_append, List.map_append, hplan, List.map_singleton, List.map_singleton, hres]
    rfl

/-- The reservations and entries of the budget loop. -/
structure BudgetRows (request : AdmissionReservationRequest)
    (dimensions : List ReservationBudgetDimension) (rows : List Reservation)
    (entries : List BudgetEntry) : Prop where
  owned : ∀ row ∈ rows, row.IsOf request
  plan : rows.map (·.resource) = dimensions.map request.budgetResource
  link : entries.map (·.link) = rows.map (·.link)
  reserve : ∀ entry ∈ entries, entry.tenantId = request.tenantId ∧ entry.entryType = .reserve

theorem insertBudgets_grows {dimensions : List ReservationBudgetDimension} {u : PUnit}
    (h : Commits (dimensions.forM (insertBudget request context occurredAt)) s u s') :
    ∃ rows entries, Grows s s' rows entries ∧ BudgetRows request dimensions rows entries := by
  refine forM_invariant (fun done s₁ => ∃ rows entries, Grows s s₁ rows entries ∧
    BudgetRows request done rows entries) ?_ ⟨[], [], .refl s, by simp, rfl, rfl, by simp⟩ h
  intro done dimension s₁ s₂ u ⟨rows, entries, hgrows, hrows⟩ hinsert
  obtain ⟨id, s₃, hresource, hentry⟩ := commits_bind.mp hinsert
  obtain ⟨row, hrow, rfl, hrowOf, hres⟩ := insertResource_grows hresource
  obtain ⟨entry, hentry, htenant, htype, hlink⟩ := insertBudgetEntry_grows hentry
  refine ⟨rows ++ [row], entries ++ [entry], by simpa using hgrows.trans (hrow.trans hentry),
    ?_, ?_, ?_, ?_⟩
  · simpa [or_imp, forall_and] using ⟨hrows.owned, hrowOf⟩
  · rw [List.map_append, List.map_append, hrows.plan, List.map_singleton, List.map_singleton, hres]
    rfl
  · have hrowLink : row.link = entry.link := by
      rw [hlink]
      simp only [Reservation.resource, Resource.mk.injEq] at hres
      rw [Reservation.link, hres.2.2.1, hres.2.2.2]
    simp [hrows.link, hrowLink]
  · simpa [or_imp, forall_and] using ⟨⟨fun e he => (hrows.reserve e he).1, htenant⟩,
      fun e he => (hrows.reserve e he).2, htype⟩

/-- The budget reservations among rows. -/
def budgetOf (rows : List Reservation) : List Reservation :=
  rows.filter fun row => row.kind == .budget

theorem kind_of_map_resource {rows : List Reservation} {l : List α} {f : α → Resource}
    (h : rows.map (·.resource) = l.map f) (hf : ∀ a, (f a).kind = kind) {row : Reservation}
    (hrow : row ∈ rows) : row.kind = kind := by
  have hmem : row.resource ∈ l.map f := h ▸ List.mem_map_of_mem hrow
  obtain ⟨a, -, ha⟩ := List.mem_map.mp hmem
  rw [← hf a, ha]
  rfl

/-- The reservations an admission inserts and the entries that go with them. -/
structure PlannedRows (request : AdmissionReservationRequest)
    (identities : List IdentityCapacityRequest) (rows : List Reservation)
    (entries : List BudgetEntry) : Prop where
  owned : ∀ row ∈ rows, row.IsOf request
  plan : rows.map (·.resource) = request.plan identities
  link : entries.map (·.link) = (budgetOf rows).map (·.link)
  reserve : ∀ entry ∈ entries, entry.tenantId = request.tenantId ∧ entry.entryType = .reserve

theorem insertResourcesAndBudgetLedger_grows
    (h : Commits (insertResourcesAndBudgetLedger request identities context occurredAt) s u s') :
    ∃ rows entries, Grows s s' rows entries ∧ PlannedRows request identities rows entries := by
  simp only [insertResourcesAndBudgetLedger, commits_bind] at h
  obtain ⟨_, s₁, hrepo, _, s₂, hworker, _, s₃, hidentities, hbudgets⟩ := h
  obtain ⟨r₁, g₁, -, of₁, res₁⟩ := insertResource_grows hrepo
  obtain ⟨r₂, g₂, -, of₂, res₂⟩ := insertResource_grows hworker
  obtain ⟨rs, g₃, of₃, res₃⟩ := insertIdentities_grows hidentities
  obtain ⟨bs, es, g₄, hbs⟩ := insertBudgets_grows hbudgets
  refine ⟨r₁ :: r₂ :: (rs ++ bs), es, by simpa using ((g₁.trans g₂).trans g₃).trans g₄,
    ?_, ?_, ?_, hbs.reserve⟩
  · intro row hrow
    simp only [List.mem_cons, List.mem_append] at hrow
    rcases hrow with rfl | rfl | hrow | hrow
    · exact of₁
    · exact of₂
    · exact of₃ row hrow
    · exact hbs.owned row hrow
  · simp [res₁, res₂, res₃, hbs.plan, AdmissionReservationRequest.plan]
  · have hr₁ : r₁.kind = .repositoryWip := congrArg Resource.kind res₁
    have hr₂ : r₂.kind = .workerSlot := congrArg Resource.kind res₂
    have hrs : budgetOf rs = [] := List.filter_eq_nil_iff.mpr fun row hrow => by
      simp [kind_of_map_resource res₃ (fun _ => rfl) hrow]
    have hbudget : budgetOf bs = bs := List.filter_eq_self.mpr fun row hrow => by
      simp [kind_of_map_resource hbs.plan (fun _ => rfl) hrow]
    have : budgetOf (r₁ :: r₂ :: (rs ++ bs)) = budgetOf rs ++ budgetOf bs := by
      simp [budgetOf, hr₁, hr₂]
    rw [hbs.link, this, hrs, hbudget, List.nil_append]

/-! ## Admission -/

theorem insertSet_eq_ok {set : ReservationSet} (h : db.insertSet set = .ok (u, db')) :
    ∃ reservationSets, reservationSets.rows = db.reservationSets.rows ++ [set] ∧
      db' = { db with reservationSets } := by
  unfold Db.insertSet at h
  split at h
  · cases h
  · rename_i hinsert
    exact ⟨_, rows_of_insert? hinsert, (mk.inj (ok.inj h)).2.symm⟩

/-- Two events with one key. -/
def ReservationSetEvent.SameKey (a b : ReservationSetEvent) : Prop :=
  a.tenantId = b.tenantId ∧ a.idempotencyKey = b.idempotencyKey

theorem insertEvent_eq_ok {event : ReservationSetEvent} (h : db.insertEvent event = .ok (u, db')) :
    (∀ e ∈ db.setEvents.rows, ¬ e.SameKey event) ∧
    ∃ setEvents, setEvents.rows = db.setEvents.rows ++ [event] ∧ db' = { db with setEvents } := by
  unfold Db.insertEvent at h
  split_ifs at h with hany
  simp only [List.any_eq_true, Bool.and_eq_true, beq_iff_eq, not_exists, not_and] at hany
  split at h
  · cases h
  · rename_i hinsert
    exact ⟨fun e he hk => hany e he hk.1 hk.2, _, rows_of_insert? hinsert,
      (mk.inj (ok.inj h)).2.symm⟩

/-- What a committed admission of a new set has read and written. -/
structure Admitted (codec : Codec) (request : AdmissionReservationRequest)
    (identities : List IdentityCapacityRequest) (s s' : Session Db) (set : ReservationSet)
    (rows : List Reservation) (entries : List BudgetEntry) (event : ReservationSetEvent) :
    Prop where
  now : s.now ≤ s'.now
  config : s'.db.config = s.db.config
  sets : s'.db.reservationSets.rows = s.db.reservationSets.rows ++ [set]
  reservations : s'.db.reservations.rows = s.db.reservations.rows ++ rows
  ledger : s'.db.budgetLedger.rows = s.db.budgetLedger.rows ++ entries
  events : s'.db.setEvents.rows = s.db.setEvents.rows ++ [event]
  set_eq : ∃ requestDigest generation acquiredAt,
    set = insertedSet request requestDigest generation acquiredAt
  planned : PlannedRows request identities rows entries
  event_fresh : ∀ e ∈ s.db.setEvents.rows, ¬ e.SameKey event
  fits : ∃ context, ContextOf codec request s.db context ∧
    Fits request identities context s.db s'.now

section

variable {set : ReservationSet} {rows : List Reservation} {entries : List BudgetEntry}
  {event : ReservationSetEvent}

section

variable (h : Admitted codec request identities s s' set rows entries event)

include h

theorem Admitted.set_id : set.id = request.reservationSetId := by
  obtain ⟨_, _, _, rfl⟩ := h.set_eq
  rfl

/-- The identifier of an admitted set is new. -/
theorem Admitted.id_fresh : ∀ row ∈ s.db.reservationSets.rows, row.id ≠ set.id := by
  have hunique := s'.db.reservationSets.unique
  rw [h.sets, List.map_append, List.nodup_append] at hunique
  intro row hrow
  exact hunique.2.2 row.id (List.mem_map_of_mem hrow) set.id (by simp)

end

end

theorem loadResources_reads {resources : List ReservedResource}
    (h : Commits (loadResources tenantId reservationSetId) s resources s') : s' = s := by
  simp only [loadResources, commits_select_bind, commits_ofExcept] at h
  exact h.2

theorem insertSetEvent_writes {eventType : SetEventType}
    {previousFenceToken fenceToken : ℤ} {actorId reason idempotencyKey : String}
    (h : Commits (insertSetEvent tenantId reservationSetId eventType previousFenceToken fenceToken
      actorId reason idempotencyKey occurredAt) s id s') :
    ∃ setEvents, s'.now = s.now ∧ s'.db = { s.db with setEvents } ∧
      setEvents.rows = s.db.setEvents.rows ++ [⟨id, tenantId, reservationSetId, eventType,
        previousFenceToken, fenceToken, actorId, reason, idempotencyKey, occurredAt⟩] ∧
      ∀ e ∈ s.db.setEvents.rows, ¬ (e.tenantId = tenantId ∧ e.idempotencyKey = idempotencyKey) := by
  simp only [insertSetEvent, commits_nowV7_bind, commits_execute_bind, commits_pure] at h
  obtain ⟨-, _, db, hinsert, rfl, rfl⟩ := h
  obtain ⟨hfresh, setEvents, hrows, rfl⟩ := insertEvent_eq_ok hinsert
  exact ⟨setEvents, rfl, rfl, hrows, hfresh⟩

theorem admitNewSet_admits {requestDigest : String}
    (h : Commits (admitNewSet codec request identities requestDigest) s receipt s') :
    receipt.disposition = .acquired ∧
      ∃ set rows entries event, Admitted codec request identities s s' set rows entries event := by
  simp only [admitNewSet, commits_clockTimestamp_bind, commits_reject_bind] at h
  obtain ⟨-, h⟩ := h
  obtain ⟨context, s₁, hcontext, h⟩ := commits_bind.mp h
  obtain ⟨_, s₂, hexisting, h⟩ := commits_bind.mp h
  obtain ⟨_, s₃, hcapacity, h⟩ := commits_bind.mp h
  obtain ⟨acquiredAt, s₄, hset, h⟩ := commits_bind.mp h
  obtain ⟨_, s₅, hrows, h⟩ := commits_bind.mp h
  obtain ⟨eventId, s₆, hevent, h⟩ := commits_bind.mp h
  obtain ⟨resources, s₇, hresources, h⟩ := commits_bind.mp h
  obtain ⟨rfl, rfl⟩ := commits_pure.mp h
  obtain ⟨r₁, hlimits⟩ := loadAndValidateContext_reads hcontext
  obtain rfl : s₂ = s₁ := by
    simp only [rejectExistingAttemptReservation, commits_select_bind] at hexisting
    split at hexisting
    · exact absurd hexisting commits_throw
    · exact (commits_pure.mp hexisting).2
  obtain ⟨r₃, hfits⟩ := enforceCapacity_reads hcapacity
  simp only [insertReservationSet, commits_ofExcept_bind, commits_clockTimestamp_bind,
    commits_execute_bind, commits_pure] at hset
  obtain ⟨generation, -, -, _, db, hinsert, rfl, rfl⟩ := hset
  obtain ⟨reservationSets, hsets, rfl⟩ := insertSet_eq_ok hinsert
  obtain ⟨rows, entries, hgrows, hplanned⟩ := insertResourcesAndBudgetLedger_grows hrows
  obtain ⟨setEvents, hnow, hdb, hevents, hfresh⟩ := insertSetEvent_writes hevent
  obtain rfl := loadResources_reads hresources
  have r := ((Reads.tick s).trans r₁).trans r₃
  have hnow₃ : s'.now = s₃.tick.now := hnow.trans hgrows.now
  have hlater : s₃.now ≤ s'.now := hnow₃ ▸ s₃.now_le_tick
  refine ⟨rfl, insertedSet request requestDigest generation s₃.tick.now, rows, entries,
    ⟨eventId, request.tenantId, request.reservationSetId, .acquired, 0, 1, request.actorId,
      acquisitionReason, request.idempotencyKey, s₃.tick.now⟩,
    { now := r.now.trans hlater
      config := ?_
      sets := ?_
      reservations := ?_
      ledger := ?_
      events := ?_
      set_eq := ⟨_, _, _, rfl⟩
      planned := hplanned
      event_fresh := ?_
      fits := ⟨context, hlimits, ?_⟩ }⟩
  · rw [hdb, ← r.db]
    exact hgrows.config
  · rw [hdb, ← r.db, ← Session.tick_db s₃, ← hsets]
    exact congrArg Table.rows hgrows.reservationSets
  · rw [hdb, ← r.db]
    exact hgrows.reservations
  · rw [hdb, ← r.db]
    exact hgrows.budgetLedger
  · rw [hdb, ← r.db]
    exact hevents.trans (by rw [hgrows.setEvents]; rfl)
  · rw [← r.db]
    rw [hgrows.setEvents] at hfresh
    exact hfresh
  · rw [← ((Reads.tick s).trans r₁).db]
    exact hfits.mono hlater

/-- An admission adopts the set its key names, or admits a new one. -/
theorem acquireAdmissionReservations_cases
    (h : Commits (acquireAdmissionReservations codec request) s receipt s') :
    (receipt.disposition = .adopted ∧ Reads s s') ∨
    (receipt.disposition = .acquired ∧ ∃ identities, request.validate = .ok identities ∧
      ∃ set rows entries event, Admitted codec request identities s s' set rows entries event) := by
  simp only [acquireAdmissionReservations, commits_ofExcept_bind, commits_select_bind] at h
  obtain ⟨identities, hvalid, requestDigest, -, h⟩ := h
  split at h
  · rename_i existing hexisting
    left
    simp only [adoptExistingSet, checkAdoptedAuthority, commits_ofExcept_bind, bind_assoc,
      commits_reject_bind, commits_clockTimestamp_bind, commits_select_bind,
      commits_orFail_bind] at h
    obtain ⟨_, -, -, -, _, -, -, _, -, _, -, h⟩ := h
    obtain ⟨resources, s₁, hresources, h⟩ := commits_bind.mp h
    obtain rfl := loadResources_reads hresources
    obtain ⟨rfl, rfl⟩ := commits_pure.mp h
    exact ⟨rfl, .tick s⟩
  · obtain ⟨hacquired, hadmits⟩ := admitNewSet_admits h
    exact .inr ⟨hacquired, identities, hvalid, hadmits⟩

end Asf.Reservations
