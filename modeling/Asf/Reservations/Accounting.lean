import Asf.Reservations.Settled

/-!
# The double-entry budget ledger

An admission writes one `RESERVE` entry per budget reservation of its set, and
the transition that closes the set one `RELEASE` entry for each of them.

Results:

* `Admitted.ledgerInv`, `Settled.ledgerInv`: an admission and a transition keep
  the accounts of every set, and the totals per tenant and dimension.
* `run_ledgerInv`: so does every run.
-/

namespace Asf.Reservations

open Lib
open List (filter_eq_nil_iff mem_map filter_append mem_append append_nil nil_append)
open Reservation (units)
open BudgetEntry (amount link)
open ReservationBudgetDimension (all)

variable {db db' : Db} {entry : BudgetEntry} {setId : Uuid} {row : Reservation}
  {entries : List BudgetEntry} {entryType : EntryType}

variable {codec : Codec} {s s' : Session Db}

/-! ## The entries of a set -/

/-- The set that owns the reservation an entry is linked to. -/
def Db.owner (db : Db) (entry : BudgetEntry) : Option Uuid :=
  (entry.reservationId.bind db.reservations.find?).map Reservation.reservationSetId

/-- The entries of one type that a set owns. -/
def Db.entriesOf (db : Db) (entryType : EntryType) (setId : Uuid) : List BudgetEntry :=
  db.budgetLedger.rows.filter fun entry =>
    entry.entryType == entryType && db.owner entry == some setId

/-- The budget reservations of a set, in the order of their insertion. -/
def Db.budgetReservations (db : Db) (setId : Uuid) : List Reservation :=
  budgetOf (db.reservations.rows.filter fun row => row.reservationSetId == setId)

theorem owner_eq_some_iff :
    db.owner entry = some setId ↔ ∃ row ∈ db.reservations.rows,
      entry.reservationId = some row.id ∧ row.reservationSetId = setId := by
  simp only [Db.owner, Option.map_eq_some_iff, Option.bind_eq_some_iff, Table.find?_eq_some_iff,
    exists_eq_right_right', and_assoc, and_left_comm]

/-- An entry keeps its owner when reservations are added. -/
theorem owner_mono (h : ∀ row ∈ db.reservations.rows, row ∈ db'.reservations.rows)
    (howner : db.owner entry = some setId) : db'.owner entry = some setId := by
  obtain ⟨row, hrow, hid, hset⟩ := owner_eq_some_iff.mp howner
  exact owner_eq_some_iff.mpr ⟨row, h row hrow, hid, hset⟩

/-! ## The invariant -/

section Accounts

variable (db : Db) (entryType : EntryType) (tenantId : Uuid)
  (dimension : ReservationBudgetDimension)

/-- The accounts of one set. -/
structure SetAccounts (set : ReservationSet) : Prop where
  dimensions : (db.budgetReservations set.id).map (·.budgetDimension) = all.map some
  reserve : (db.entriesOf .reserve set.id).map (·.link) =
    (db.budgetReservations set.id).map (·.link)
  active : set.state = .active → set.fenceToken = 1 ∧ db.entriesOf .release set.id = []
  terminal : set.state ≠ .active → set.fenceToken = 2 ∧
    ((db.entriesOf .release set.id).map (·.link)).Perm ((db.budgetReservations set.id).map (·.link))

/-- `SUM(amount)` of the entries of one type. -/
def Db.entryTotal : ℕ :=
  sumWhere (fun entry => entry.tenantId == tenantId && entry.dimension == dimension
    && entry.entryType == entryType) amount db.budgetLedger.rows

/-- Whether a reservation is of a dimension and its set is still `ACTIVE`. -/
def Db.isReserved (row : Reservation) : Bool :=
  row.tenantId == tenantId && row.kind == .budget && row.budgetDimension == some dimension
    && (db.reservationSets.find? row.reservationSetId).any fun set => set.state == .active

/-- The budget units of the sets that are still `ACTIVE`. -/
def Db.reservedTotal : ℕ :=
  sumWhere (db.isReserved tenantId dimension) units db.reservations.rows

end Accounts

theorem isReserved_iff {tenantId : Uuid} {dimension : ReservationBudgetDimension} :
    db.isReserved tenantId dimension row ↔ row.tenantId = tenantId ∧ row.kind = .budget ∧
      row.budgetDimension = some dimension ∧ ∃ set ∈ db.reservationSets.rows,
        set.id = row.reservationSetId ∧ set.state = .active := by
  simp [Db.isReserved, Option.any_eq_true, Table.find?_eq_some_iff, and_assoc]

/-- The ledger accounts for every reservation set. -/
structure LedgerInv (db : Db) : Prop where
  refs : ∀ row ∈ db.reservations.rows, ∃ set ∈ db.reservationSets.rows,
    set.id = row.reservationSetId ∧ set.tenantId = row.tenantId
  linked : ∀ entry ∈ db.budgetLedger.rows, entry.entryType = .reserve ∨ entry.entryType = .release →
    ∃ setId, db.owner entry = some setId
  accounts : ∀ set ∈ db.reservationSets.rows, SetAccounts db set
  total : ∀ tenantId dimension, db.entryTotal .reserve tenantId dimension =
    db.entryTotal .release tenantId dimension + db.reservedTotal tenantId dimension

/-- The accounts of a set depend on its entries and reservations only. -/
theorem SetAccounts.congr {set : ReservationSet} (h : SetAccounts db set)
    (hreservations : db'.budgetReservations set.id = db.budgetReservations set.id)
    (hentries : ∀ entryType, entryType = .reserve ∨ entryType = .release →
      db'.entriesOf entryType set.id = db.entriesOf entryType set.id) : SetAccounts db' set where
  dimensions := by rw [hreservations]; exact h.dimensions
  reserve := by rw [hreservations, hentries _ (.inl rfl)]; exact h.reserve
  active := by rw [hentries _ (.inr rfl)]; exact h.active
  terminal := by rw [hreservations, hentries _ (.inr rfl)]; exact h.terminal

/-- Sums over linked rows agree. -/
theorem sumWhere_of_link {rows : List Reservation}
    (h : (entries.map (·.link)).Perm (rows.map (·.link))) (dimension : ReservationBudgetDimension) :
    sumWhere (fun entry => entry.dimension == dimension) amount entries =
      sumWhere (fun row => row.budgetDimension == some dimension) units rows := by
  have he : sumWhere (fun link => link.2.1 == some dimension) (fun link => link.2.2)
      (entries.map (·.link)) =
      sumWhere (fun entry => entry.dimension == dimension) amount entries := by
    rw [sumWhere_map]
    exact sumWhere_congr fun entry _ => by simp [link]
  have hr : sumWhere (fun link => link.2.1 == some dimension) (fun link => link.2.2)
      (rows.map (·.link)) =
      sumWhere (fun row => row.budgetDimension == some dimension) units rows := by
    rw [sumWhere_map]
    rfl
  rw [← he, ← hr, sumWhere_perm h]

/-! ## Appending to the ledger -/

/-- Entries that were there keep their owners. -/
theorem filter_old_entries (hlinked : ∀ entry ∈ db.budgetLedger.rows,
      entry.entryType = .reserve ∨ entry.entryType = .release →
        ∃ setId, db.owner entry = some setId)
    (hmono : ∀ row ∈ db.reservations.rows, row ∈ db'.reservations.rows)
    (htype : entryType = .reserve ∨ entryType = .release) (setId : Uuid) :
    db.budgetLedger.rows.filter (fun entry =>
      entry.entryType == entryType && db'.owner entry == some setId) =
      db.entriesOf entryType setId := by
  apply List.filter_congr
  intro entry hentry
  by_cases ht : entry.entryType = entryType
  · obtain ⟨owner, howner⟩ := hlinked entry hentry (ht ▸ htype)
    rw [howner, owner_mono hmono howner]
  · rw [beq_eq_false_iff_ne.mpr ht, Bool.false_and, Bool.false_and]

/-- New entries of one type and one owner. -/
theorem filter_new_entries
    (h : ∀ entry ∈ entries, entry.entryType = entryType ∧ db.owner entry = some setId)
    (entryType' : EntryType) (setId' : Uuid) :
    entries.filter (fun entry => entry.entryType == entryType' && db.owner entry == some setId') =
      if entryType' = entryType ∧ setId' = setId then entries else [] := by
  split_ifs with hc
  · rw [List.filter_eq_self]
    intro entry hentry
    simp [h entry hentry, hc.1, hc.2]
  · rw [filter_eq_nil_iff]
    intro entry hentry hp
    simp only [h entry hentry, Bool.and_eq_true, beq_iff_eq, Option.some.injEq] at hp
    exact hc ⟨hp.1.symm, hp.2.symm⟩

/-- What new entries of one type and one tenant add to the totals. -/
theorem entryTotal_append {tenantId : Uuid}
    (hledger : db'.budgetLedger.rows = db.budgetLedger.rows ++ entries)
    (h : ∀ entry ∈ entries, entry.tenantId = tenantId ∧ entry.entryType = entryType)
    (entryType' : EntryType) (tenantId' : Uuid) (dimension : ReservationBudgetDimension) :
    db'.entryTotal entryType' tenantId' dimension = db.entryTotal entryType' tenantId' dimension +
      if tenantId = tenantId' ∧ entryType' = entryType then
        sumWhere (fun entry => entry.dimension == dimension) amount entries
      else 0 := by
  rw [Db.entryTotal, hledger, sumWhere_append, Db.entryTotal]
  congr 1
  split_ifs with hc
  · apply sumWhere_congr
    intro entry hentry
    simp [h entry hentry, hc.1, hc.2]
  · apply sumWhere_eq_zero
    intro entry hentry hp
    simp only [h entry hentry, Bool.and_eq_true, beq_iff_eq] at hp
    exact hc ⟨hp.1.1, hp.2.symm⟩

section Admitted

variable {request : AdmissionReservationRequest} {identities : List IdentityCapacityRequest}
  {set : ReservationSet} {rows : List Reservation} {event : ReservationSetEvent}

section

variable (hfresh : ∀ row ∈ db.reservationSets.rows, row.id ≠ setId)

include hfresh

/-- No old reservation belongs to a set that is not there yet. -/
theorem LedgerInv.budgetReservations_eq_nil (hinv : LedgerInv db) :
    db.budgetReservations setId = [] := by
  rw [Db.budgetReservations, filter_eq_nil_iff.mpr]
  · rfl
  · intro row hrow hp
    obtain ⟨owner, howner, hid, -⟩ := hinv.refs row hrow
    exact hfresh owner howner (hid.trans (beq_iff_eq.mp hp))

theorem LedgerInv.entriesOf_eq_nil (hinv : LedgerInv db) (entryType : EntryType) :
    db.entriesOf entryType setId = [] := by
  rw [Db.entriesOf, filter_eq_nil_iff]
  intro entry hentry hp
  simp only [Bool.and_eq_true, beq_iff_eq] at hp
  obtain ⟨row, hrow, -, hset⟩ := owner_eq_some_iff.mp hp.2
  obtain ⟨owner, howner, hid, -⟩ := hinv.refs row hrow
  exact hfresh owner howner (hid.trans hset)

end

/-- A plan has one budget reservation per dimension. -/
theorem PlannedRows.dimensions (h : PlannedRows request identities rows entries) :
    (budgetOf rows).map (·.budgetDimension) = all.map some := by
  have hmap : (budgetOf rows).map (·.budgetDimension) =
      ((rows.map (·.resource)).filter fun resource => resource.kind == .budget).map
        (·.budgetDimension) := by
    rw [List.filter_map, List.map_map]
    rfl
  have hidentities : (identities.map (·.resource)).filter
      (fun resource => resource.kind == .budget) = [] := by
    rw [filter_eq_nil_iff]
    intro resource hresource
    obtain ⟨identity, -, rfl⟩ := mem_map.mp hresource
    simp [IdentityCapacityRequest.resource]
  rw [hmap, h.plan, AdmissionReservationRequest.plan, List.filter_cons_of_neg (by simp),
    List.filter_cons_of_neg (by simp), filter_append, hidentities]
  rfl

variable (h : Admitted codec request identities s s' set rows entries event)

include h

theorem Admitted.mem_reservations :
    ∀ row ∈ s.db.reservations.rows, row ∈ s'.db.reservations.rows := by
  intro row hrow
  rw [h.reservations]
  exact List.mem_append_left _ hrow

theorem Admitted.owner_new (hentry : entry ∈ entries) : s'.db.owner entry = some set.id := by
  have hmem : entry.link ∈ (budgetOf rows).map (·.link) :=
    h.planned.link ▸ List.mem_map_of_mem hentry
  obtain ⟨row, hrow, hlink⟩ := mem_map.mp hmem
  have hrow := (List.mem_filter.mp hrow).1
  refine owner_eq_some_iff.mpr ⟨row, ?_, congrArg Prod.fst hlink.symm, ?_⟩
  · rw [h.reservations]
    exact List.mem_append_right _ hrow
  · rw [h.set_id]
    exact (h.planned.owned row hrow).2

theorem Admitted.budgetReservations_eq (setId : Uuid) :
    s'.db.budgetReservations setId = s.db.budgetReservations setId ++
      if setId = set.id then budgetOf rows else [] := by
  rw [Db.budgetReservations, h.reservations, filter_append, budgetOf, filter_append]
  congr 1
  split_ifs with hc
  · have hall : rows.filter (fun row => row.reservationSetId == setId) = rows :=
      List.filter_eq_self.mpr fun row hrow => by
        simp [(h.planned.owned row hrow).2, hc, h.set_id]
    rw [hall, budgetOf]
  · have hnone : rows.filter (fun row => row.reservationSetId == setId) = [] :=
      filter_eq_nil_iff.mpr fun row hrow => by
        simpa [(h.planned.owned row hrow).2, ← h.set_id] using Ne.symm hc
    rw [hnone, List.filter_nil]

variable (tenantId : Uuid) (dimension : ReservationBudgetDimension)

/-- A new reservation of the dimension counts, its set being active. -/
theorem Admitted.isReserved_new (hrow : row ∈ rows) :
    s'.db.isReserved tenantId dimension row =
      (request.tenantId == tenantId && row.kind == .budget
        && row.budgetDimension == some dimension) := by
  obtain ⟨htenant, hset⟩ := h.planned.owned row hrow
  have hactive : ∃ set ∈ s'.db.reservationSets.rows, set.id = row.reservationSetId ∧
      set.state = .active := by
    obtain ⟨_, _, _, hset_eq⟩ := h.set_eq
    refine ⟨set, ?_, h.set_id.trans hset.symm, by rw [hset_eq]; rfl⟩
    rw [h.sets]
    exact List.mem_append_right _ (List.mem_singleton_self _)
  rw [Bool.eq_iff_iff, isReserved_iff, htenant]
  simp [hactive, and_assoc]

variable (hinv : LedgerInv s.db)

include hinv

theorem Admitted.entriesOf_eq (htype : entryType = .reserve ∨ entryType = .release) (setId : Uuid) :
    s'.db.entriesOf entryType setId = s.db.entriesOf entryType setId ++
      if entryType = .reserve ∧ setId = set.id then entries else [] := by
  rw [Db.entriesOf, h.ledger, filter_append,
    filter_old_entries hinv.linked h.mem_reservations htype,
    filter_new_entries fun entry hentry =>
      ⟨(h.planned.reserve entry hentry).2, h.owner_new hentry⟩]

/-- An old reservation counts as before. -/
theorem Admitted.isReserved_old (hrow : row ∈ s.db.reservations.rows) :
    s'.db.isReserved tenantId dimension row = s.db.isReserved tenantId dimension row := by
  rw [Bool.eq_iff_iff, isReserved_iff, isReserved_iff, h.sets]
  obtain ⟨owner, howner, hid, -⟩ := hinv.refs row hrow
  have hne : set.id ≠ row.reservationSetId :=
    fun heq => h.id_fresh owner howner (hid.trans heq.symm)
  simp only [mem_append, List.mem_singleton, or_and_right, exists_or, exists_eq_left, hne,
    false_and, or_false]

theorem Admitted.reservedTotal_eq :
    s'.db.reservedTotal tenantId dimension = s.db.reservedTotal tenantId dimension +
      if request.tenantId = tenantId then
        sumWhere (fun row => row.budgetDimension == some dimension) units (budgetOf rows)
      else 0 := by
  rw [Db.reservedTotal, h.reservations, sumWhere_append, Db.reservedTotal,
    sumWhere_congr fun row hrow => h.isReserved_old tenantId dimension hinv hrow,
    sumWhere_congr fun row hrow => h.isReserved_new tenantId dimension hrow]
  congr 1
  split_ifs with hc
  · simp only [hc, beq_self_eq_true, Bool.true_and, sumWhere, budgetOf, List.filter_filter]
    congr 3
    funext row
    exact Bool.and_comm _ _
  · exact sumWhere_eq_zero fun row _ => by simp [hc]

/-- **Admission keeps the books.** -/
theorem Admitted.ledgerInv : LedgerInv s'.db where
  refs := by
    intro row hrow
    rw [h.reservations, mem_append] at hrow
    rw [h.sets]
    rcases hrow with hold | hnew
    · obtain ⟨owner, howner, hid⟩ := hinv.refs row hold
      exact ⟨owner, List.mem_append_left _ howner, hid⟩
    · obtain ⟨htenant, hset⟩ := h.planned.owned row hnew
      obtain ⟨_, _, _, rfl⟩ := h.set_eq
      exact ⟨_, List.mem_append_right _ (List.mem_singleton_self _), hset.symm, htenant.symm⟩
  linked := by
    intro entry hentry htype
    rw [h.ledger, mem_append] at hentry
    rcases hentry with hold | hnew
    · obtain ⟨owner, howner⟩ := hinv.linked entry hold htype
      exact ⟨owner, owner_mono h.mem_reservations howner⟩
    · exact ⟨_, h.owner_new hnew⟩
  accounts := by
    intro other hother
    rw [h.sets, mem_append, List.mem_singleton] at hother
    rcases hother with hold | rfl
    · have hne := h.id_fresh other hold
      refine (hinv.accounts other hold).congr ?_ fun entryType htype => ?_
      · rw [h.budgetReservations_eq, if_neg hne, append_nil]
      · rw [h.entriesOf_eq hinv htype, if_neg fun hc => hne hc.2, append_nil]
    · have hrows : s'.db.budgetReservations other.id = budgetOf rows := by
        rw [h.budgetReservations_eq, if_pos rfl, hinv.budgetReservations_eq_nil h.id_fresh,
          nil_append]
      have hreserve : s'.db.entriesOf .reserve other.id = entries := by
        rw [h.entriesOf_eq hinv (.inl rfl), if_pos ⟨rfl, rfl⟩, hinv.entriesOf_eq_nil h.id_fresh,
          nil_append]
      have hrelease : s'.db.entriesOf .release other.id = [] := by
        rw [h.entriesOf_eq hinv (.inr rfl), if_neg (by simp), hinv.entriesOf_eq_nil h.id_fresh,
          nil_append]
      obtain ⟨_, _, _, hother⟩ := h.set_eq
      refine ⟨?_, ?_, fun _ => ⟨by rw [hother]; rfl, hrelease⟩, fun hc => absurd ?_ hc⟩
      · rw [hrows, h.planned.dimensions]
      · rw [hrows, hreserve, h.planned.link]
      · rw [hother]
        rfl
  total := by
    intro tenantId dimension
    have htotal := hinv.total tenantId dimension
    rw [entryTotal_append h.ledger h.planned.reserve, entryTotal_append h.ledger h.planned.reserve,
      h.reservedTotal_eq _ _ hinv, sumWhere_of_link (.of_eq h.planned.link) dimension]
    by_cases hc : request.tenantId = tenantId
    · simp only [hc, and_true, if_true, reduceCtorEq, and_false, if_false]
      omega
    · simp only [hc, false_and, if_false]
      omega

end Admitted

/-! ## Transitions -/

/-- The rows a transition releases are the budget reservations of the set. -/
theorem LedgerInv.budgetRows_perm (hinv : LedgerInv db) {set : ReservationSet}
    (hset : set ∈ db.reservationSets.rows) :
    (db.budgetRows set.tenantId set.id).Perm (db.budgetReservations set.id) := by
  have hrows : db.setReservations set.tenantId set.id =
      db.reservations.rows.filter fun row => row.reservationSetId == set.id := by
    apply List.filter_congr
    intro row hrow
    by_cases hid : row.reservationSetId = set.id
    · obtain ⟨owner, howner, howner_id, htenant⟩ := hinv.refs row hrow
      obtain rfl := Table.eq_of_key_eq howner hset (howner_id.trans hid)
      simp [htenant]
    · simp [hid]
  rw [Db.budgetRows, hrows]
  exact List.perm_insertionSort _ _

section Settled

variable {transition : ReservationTransitionRequest} {target : ReservationTerminalState}
  {set closed : ReservationSet} {event : ReservationSetEvent}

variable (h : Settled transition target s s' set closed entries event)

include h

theorem Settled.owner_eq (entry : BudgetEntry) : s'.db.owner entry = s.db.owner entry := by
  rw [Db.owner, Db.owner, h.reservations]

theorem Settled.budgetReservations_eq (setId : Uuid) :
    s'.db.budgetReservations setId = s.db.budgetReservations setId := by
  rw [Db.budgetReservations, Db.budgetReservations, h.reservations]

variable (tenantId : Uuid) (dimension : ReservationBudgetDimension)

theorem Settled.isReserved_eq (row : Reservation) :
    s'.db.isReserved tenantId dimension row =
      (s.db.isReserved tenantId dimension row && !(row.reservationSetId == set.id)) := by
  rw [Bool.eq_iff_iff, Bool.and_eq_true, isReserved_iff, isReserved_iff, Bool.not_eq_true',
    beq_eq_false_iff_ne]
  constructor
  · rintro ⟨htenant, hkind, hdimension, other, hother, hid, hactive⟩
    rcases h.mem_sets.mp hother with rfl | ⟨hother, hne⟩
    · exact absurd hactive h.closed_terminal
    · exact ⟨⟨htenant, hkind, hdimension, other, hother, hid, hactive⟩, hid ▸ hne⟩
  · rintro ⟨⟨htenant, hkind, hdimension, other, hother, hid, hactive⟩, hne⟩
    exact ⟨htenant, hkind, hdimension, other, h.mem_sets.mpr (.inr ⟨hother, hid ▸ hne⟩), hid,
      hactive⟩

variable (hinv : LedgerInv s.db)

include hinv

/-- The new entries release exactly the set's budget reservations. -/
theorem Settled.link_perm :
    (entries.map (·.link)).Perm ((s.db.budgetReservations set.id).map (·.link)) := by
  obtain ⟨htenant, hid, -, -⟩ := h.guard_iff
  rw [h.link, ← htenant, ← hid]
  exact (hinv.budgetRows_perm h.mem).map _

theorem Settled.owner_new (hentry : entry ∈ entries) : s'.db.owner entry = some set.id := by
  obtain ⟨row, hrow, hlink⟩ :=
    mem_map.mp ((h.link_perm hinv).mem_iff.mp (List.mem_map_of_mem hentry))
  obtain ⟨hrow, hset⟩ := List.mem_filter.mp (List.mem_filter.mp hrow).1
  rw [h.owner_eq]
  exact owner_eq_some_iff.mpr ⟨row, hrow, congrArg Prod.fst hlink.symm, beq_iff_eq.mp hset⟩

theorem Settled.entriesOf_eq (entryType : EntryType) (setId : Uuid) :
    s'.db.entriesOf entryType setId = s.db.entriesOf entryType setId ++
      if entryType = .release ∧ setId = set.id then entries else [] := by
  have hold : s.db.budgetLedger.rows.filter (fun entry =>
      entry.entryType == entryType && s'.db.owner entry == some setId) =
      s.db.entriesOf entryType setId :=
    List.filter_congr fun entry _ => by rw [h.owner_eq]
  rw [Db.entriesOf, h.ledger, filter_append, hold,
    filter_new_entries fun entry hentry => ⟨(h.release entry hentry).2, h.owner_new hinv hentry⟩]

/-- A settled set gives its units back. -/
theorem Settled.reservedTotal_eq :
    s.db.reservedTotal tenantId dimension = s'.db.reservedTotal tenantId dimension +
      if transition.tenantId = tenantId then
        sumWhere (fun row => row.budgetDimension == some dimension) units
          (s.db.budgetReservations set.id)
      else 0 := by
  obtain ⟨htenant, -, hactive, -⟩ := h.guard_iff
  rw [Db.reservedTotal, sumWhere_split _ fun row => row.reservationSetId == set.id,
    Db.reservedTotal, h.reservations, Nat.add_comm,
    sumWhere_congr fun row _ => h.isReserved_eq tenantId dimension row]
  congr 1
  -- the rows of the set: all of its tenant, and counted as the set is active
  have hrow : ∀ row ∈ s.db.reservations.rows,
      (s.db.isReserved tenantId dimension row && row.reservationSetId == set.id) =
        (decide (transition.tenantId = tenantId) && (row.budgetDimension == some dimension &&
          (row.kind == .budget && row.reservationSetId == set.id))) := by
    intro row hmem
    rw [Bool.eq_iff_iff, Bool.and_eq_true, isReserved_iff]
    simp only [Bool.and_eq_true, beq_iff_eq, decide_eq_true_eq]
    constructor
    · rintro ⟨⟨rfl, hkind, hdimension, -⟩, hid⟩
      obtain ⟨owner, howner, howner_id, htenant'⟩ := hinv.refs row hmem
      obtain rfl := Table.eq_of_key_eq howner h.mem (howner_id.trans hid)
      exact ⟨htenant.symm.trans htenant', hdimension, hkind, hid⟩
    · rintro ⟨hT, hdimension, hkind, hid⟩
      obtain ⟨owner, howner, howner_id, htenant'⟩ := hinv.refs row hmem
      obtain rfl := Table.eq_of_key_eq howner h.mem (howner_id.trans hid)
      exact ⟨⟨htenant'.symm.trans (htenant.trans hT), hkind, hdimension, owner, h.mem, howner_id,
        hactive⟩, hid⟩
  rw [sumWhere_congr hrow]
  split_ifs with hT
  · simp [hT, sumWhere, Db.budgetReservations, budgetOf]
  · exact sumWhere_eq_zero fun row _ => by simp [hT]

/-- **A transition keeps the books.** -/
theorem Settled.ledgerInv : LedgerInv s'.db where
  refs := by
    intro row hrow
    rw [h.reservations] at hrow
    obtain ⟨owner, howner, hid, htenant⟩ := hinv.refs row hrow
    by_cases hset : owner.id = set.id
    · obtain rfl := Table.eq_of_key_eq howner h.mem hset
      refine ⟨closed, h.mem_sets.mpr (.inl rfl), h.closed_id.trans hid, ?_⟩
      obtain ⟨_, _, rfl⟩ := h.closed_eq
      exact htenant
    · exact ⟨owner, h.mem_sets.mpr (.inr ⟨howner, hset⟩), hid, htenant⟩
  linked := by
    intro entry hentry htype
    rw [h.ledger, mem_append] at hentry
    rcases hentry with hold | hnew
    · rw [h.owner_eq]
      exact hinv.linked entry hold htype
    · exact ⟨_, h.owner_new hinv hnew⟩
  accounts := by
    intro other hother
    rcases h.mem_sets.mp hother with rfl | ⟨hother, hne⟩
    · have haccounts := hinv.accounts set h.mem
      obtain ⟨-, -, hactive, hfence⟩ := h.guard_iff
      obtain ⟨hone, hnone⟩ := haccounts.active hactive
      have hrelease : s'.db.entriesOf .release other.id = entries := by
        rw [h.closed_id, h.entriesOf_eq hinv, if_pos ⟨rfl, rfl⟩, hnone, nil_append]
      refine ⟨?_, ?_, fun hc => absurd hc h.closed_terminal, fun _ => ⟨?_, ?_⟩⟩
      · rw [h.closed_id, h.budgetReservations_eq]
        exact haccounts.dimensions
      · rw [h.closed_id, h.budgetReservations_eq, h.entriesOf_eq hinv, if_neg (by simp), append_nil]
        exact haccounts.reserve
      · obtain ⟨_, _, rfl⟩ := h.closed_eq
        show (transition.expectedFenceToken + 1 : ℤ) = 2
        rw [← hfence, hone]
        rfl
      · rw [hrelease, h.closed_id, h.budgetReservations_eq]
        exact h.link_perm hinv
    · refine (hinv.accounts other hother).congr (h.budgetReservations_eq _) fun entryType _ => ?_
      rw [h.entriesOf_eq hinv, if_neg fun hc => hne hc.2, append_nil]
  total := by
    intro tenantId dimension
    have htotal := hinv.total tenantId dimension
    rw [h.reservedTotal_eq _ _ hinv] at htotal
    rw [entryTotal_append h.ledger h.release, entryTotal_append h.ledger h.release,
      sumWhere_of_link (h.link_perm hinv) dimension]
    by_cases hc : transition.tenantId = tenantId
    · simp only [hc, if_true, reduceCtorEq, and_false, if_false, and_true] at htotal ⊢
      omega
    · simp only [hc, false_and, if_false] at htotal ⊢
      omega

end Settled

/-! ## Every run -/

section

variable (hinv : LedgerInv s.db)

include hinv

/-- Consumption is on neither side of the books. -/
theorem LedgerInv.consumed
    (htype : entry.entryType = .consume ∨ entry.entryType = .adjust) (hg : Grows s s' [] [entry]) :
    LedgerInv s'.db := by
  have hreservations : s'.db.reservations = s.db.reservations :=
    Table.ext' (by simpa using hg.reservations)
  have hne : ∀ {entryType}, entryType = .reserve ∨ entryType = .release →
      entry.entryType ≠ entryType := by
    rintro _ (rfl | rfl) heq <;> simp [heq] at htype
  have howner : s'.db.owner = s.db.owner := by
    funext e
    rw [Db.owner, Db.owner, hreservations]
  have hrows : ∀ setId, s'.db.budgetReservations setId = s.db.budgetReservations setId := by
    intro setId
    rw [Db.budgetReservations, Db.budgetReservations, hreservations]
  have hentries : ∀ entryType, entryType = .reserve ∨ entryType = .release → ∀ setId,
      s'.db.entriesOf entryType setId = s.db.entriesOf entryType setId := by
    intro entryType ht setId
    rw [Db.entriesOf, hg.budgetLedger, filter_append, howner,
      List.filter_cons_of_neg (by simp [hne ht]), List.filter_nil, append_nil, Db.entriesOf]
  have htotal : ∀ entryType, entryType = .reserve ∨ entryType = .release → ∀ tenantId dimension,
      s'.db.entryTotal entryType tenantId dimension =
        s.db.entryTotal entryType tenantId dimension := by
    intro entryType ht tenantId dimension
    have hnew : ∀ e ∈ [entry], e.tenantId = entry.tenantId ∧ e.entryType = entry.entryType := by
      simp
    rw [entryTotal_append hg.budgetLedger hnew, if_neg fun hc => hne ht hc.2.symm, Nat.add_zero]
  have hreserved : ∀ tenantId dimension,
      s'.db.reservedTotal tenantId dimension = s.db.reservedTotal tenantId dimension := by
    intro tenantId dimension
    rw [Db.reservedTotal, Db.reservedTotal, hreservations]
    refine sumWhere_congr fun row _ => ?_
    rw [Db.isReserved, Db.isReserved, hg.reservationSets]
  refine ⟨?_, ?_, ?_, ?_⟩
  · rw [hreservations, hg.reservationSets]
    exact hinv.refs
  · intro e he ht
    rw [hg.budgetLedger, mem_append, List.mem_singleton] at he
    rw [howner]
    rcases he with he | rfl
    · exact hinv.linked e he ht
    · exact absurd rfl (hne ht)
  · intro set hset
    rw [hg.reservationSets] at hset
    exact (hinv.accounts set hset).congr (hrows _) fun entryType ht => hentries entryType ht _
  · intro tenantId dimension
    rw [htotal _ (.inl rfl), htotal _ (.inr rfl), hreserved]
    exact hinv.total tenantId dimension

theorem LedgerInv.upkeep (hu : Upkeep s s') : LedgerInv s'.db := by
  cases hu with
  | reads hr =>
    rw [hr.db]
    exact hinv
  | settled transition target set closed entries event hs => exact hs.ledgerInv hinv
  | configured config hlimits hs =>
    subst hs
    exact ⟨hinv.refs, hinv.linked,
      fun set hset => (hinv.accounts set hset).congr rfl fun _ _ => rfl, hinv.total⟩
  | consumed entry htype hg => exact hinv.consumed htype hg

/-- **One step.** -/
theorem LedgerInv.effect (he : Effect codec s s') : LedgerInv s'.db := by
  cases he with
  | admitted request identities set rows entries event hvalid ha => exact ha.ledgerInv hinv
  | upkeep hu => exact hinv.upkeep hu

end

theorem ledgerInv_initial (clock : Timestamptz) (config : Config) :
    LedgerInv (initial clock config).db where
  refs := fun row h => absurd h (by simp [initial, Table.empty])
  linked := fun entry h => absurd h (by simp [initial, Table.empty])
  accounts := fun set h => absurd h (by simp [initial, Table.empty])
  total := fun _ _ => rfl

/-- **Whole runs.** -/
theorem run_ledgerInv {state : State} (h : LedgerInv state.db) (l : List Request) :
    LedgerInv ((ledger codec).run state l).db :=
  run_invariant_of_effect (P := fun _ db => LedgerInv db) (fun _ _ he h => h.effect he) h l

end Asf.Reservations
