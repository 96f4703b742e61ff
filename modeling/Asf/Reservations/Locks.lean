import Asf.Lib.LockOrder
import Asf.Reservations.Admission

/-!
# Advisory locks of the reservation paths

The lock names of `src/ledger/reservations.rs` and of the triggers its inserts
fire, in the order in which each path requests them. A transaction holds its
advisory locks until it ends, and a request for a lock it already holds returns
at once.

Results:

* `LockTx.ascending`: every path takes its locks in the order idempotency key,
  worker authority, admission keys by text, reservation set.
* `reservation_locks_acyclic`: so no set of concurrent transactions can wait
  for each other in a cycle.
-/

namespace Asf.Reservations

open Lib
open String (append_assoc lt_iff)
open Ascending (of_pairwise)

/-! ## Lock names -/

/-- The lock of an admission's idempotency key (lines 380-387). -/
def reservationIdempotencyLock (tenantId : Uuid) (idempotencyKey : String) : String :=
  s!"reservation-idempotency:{tenantId}:{idempotencyKey}"

/-- The lock of a worker's authority (lines 393-400, 1864-1868,
    worker_reconciliation.rs:712-713, 0012 lines 48-51 and 74-77). -/
def workerAuthorityLock (tenantId workerId : Uuid) : String :=
  s!"worker-authority:{tenantId}:{workerId}"

variable (tenantId workItemId : Uuid) {name : String}

/-- The lock of a work item's budget (lines 1461-1465, 1694-1698,
    1869-1873, 0001 lines 1696-1699). -/
def budgetLock : String :=
  s!"admission:{tenantId}:budget:{workItemId}"

/-- The lock of a set (lines 1466-1473). -/
def reservationSetLock (tenantId reservationSetId : Uuid) : String :=
  s!"reservation-set:{tenantId}:{reservationSetId}"

/-- `keys.sort(); keys.dedup()`, and what a `BTreeSet` of the list iterates over. -/
def sortDedup {α : Type} [LinearOrder α] (l : List α) : List α := l.dedup.insertionSort (· ≤ ·)

/-- `admission_lock_keys` (lines 1979-2010). -/
def admissionLockKeys (request : AdmissionReservationRequest)
    (identities : List IdentityCapacityRequest) : List String :=
  sortDedup <|
    [s!"admission:{request.tenantId}:attempt:{request.attemptId}",
      budgetLock request.tenantId request.workItemId,
      s!"admission:{request.tenantId}:repository:{request.repositoryId}",
      s!"admission:{request.tenantId}:worker:{request.workerId}"]
    ++ identities.map fun identity =>
      s!"admission:{request.tenantId}:identity:{identity.profileRef}"

/-! ## The paths -/

/-- A transaction on the reservation tables with the data its lock requests
    depend on. `selected` is what the second read of a batch finds of the
    candidates; `inserts` counts the budget ledger rows written for a set. -/
inductive LockTx where
  | acquire (request : AdmissionReservationRequest) (identities : List IdentityCapacityRequest)
      (adopts : Bool)
  | transition (request : ReservationTransitionRequest) (workItemId : Uuid) (inserts : ℕ)
  | sweep (tenantId : Uuid) (candidates : List ReservationSet) (selected : ReservationSet → Bool)
      (inserts : ReservationSet → ℕ)
  | workerRelease (tenantId workerId : Uuid) (candidates : List ReservationSet)
      (selected : ReservationSet → Bool) (inserts : ReservationSet → ℕ)
  | attemptRelease (tenantId workItemId workerId : Uuid) (inserts : ℕ)

/-- `asf_lock_budget_ledger_work_item` (0001_initial.sql:1691-1707) for every row
    inserted into the budget ledger. -/
def ledgerInsertLocks (inserts : ℕ) : List String :=
  List.replicate inserts (budgetLock tenantId workItemId)

/-- The same for a batch of sets. -/
def batchInsertLocks (tenantId : Uuid) (rows : List ReservationSet)
    (inserts : ReservationSet → ℕ) : List String :=
  rows.flatMap fun row => ledgerInsertLocks tenantId row.workItemId (inserts row)

/-- `lock_attempt_reservation_release_authority` (lines 1858-1874). -/
def attemptReleaseAuthorityLocks (tenantId workItemId workerId : Uuid) : List String :=
  [workerAuthorityLock tenantId workerId, budgetLock tenantId workItemId]

/-- The locks a transaction requests, in order. -/
def LockTx.requests : LockTx → List String
  | .acquire request identities adopts =>
    [reservationIdempotencyLock request.tenantId request.idempotencyKey,
      workerAuthorityLock request.tenantId request.workerId]
    ++ if adopts then [] else
      admissionLockKeys request identities
        -- `asf_assert_reservation_worker_session` locks the authority again
        ++ workerAuthorityLock request.tenantId request.workerId
        :: ledgerInsertLocks request.tenantId request.workItemId
          ReservationBudgetDimension.all.length
  | .transition request workItemId inserts =>
    [budgetLock request.tenantId workItemId,
      reservationSetLock request.tenantId request.reservationSetId]
    ++ ledgerInsertLocks request.tenantId workItemId inserts
  | .sweep tenantId candidates selected inserts =>
    sortDedup (candidates.map fun row => budgetLock tenantId row.workItemId)
    ++ batchInsertLocks tenantId (candidates.filter selected) inserts
  | .workerRelease tenantId workerId candidates selected inserts =>
    -- the reconciliation that calls it holds the authority, so no set of the
    -- worker is admitted between the two reads
    workerAuthorityLock tenantId workerId
    :: ((sortDedup (candidates.map ReservationSet.workItemId)).map (budgetLock tenantId)
      ++ batchInsertLocks tenantId (candidates.filter selected) inserts)
  | .attemptRelease tenantId workItemId workerId inserts =>
    -- once before the caller locks its rows, and again in the release itself
    attemptReleaseAuthorityLocks tenantId workItemId workerId
    ++ (attemptReleaseAuthorityLocks tenantId workItemId workerId
      ++ ledgerInsertLocks tenantId workItemId inserts)

/-! ## The order -/

/-- Idempotency keys, worker authorities, admission keys, then the rest. -/
def lockClass (name : String) : ℕ :=
  if startsWith name "reservation-idempotency:" then 0
  else if startsWith name "worker-authority:" then 1
  else if startsWith name "admission:" then 2
  else 3

/-- The place of a lock name in the one total order: by class, then by text. -/
def lockLevel (name : String) : ℕ ×ₗ String := toLex (lockClass name, name)

theorem lockLevel_lt_of_class {a b : String} (h : lockClass a < lockClass b) :
    lockLevel a < lockLevel b := Prod.Lex.toLex_lt_toLex.mpr (.inl h)

theorem lockLevel_lt_of_text {a b : String} (h : lockClass a = lockClass b) (hlt : a < b) :
    lockLevel a < lockLevel b := Prod.Lex.toLex_lt_toLex.mpr (.inr ⟨h, hlt⟩)

/-- The class of a name with a given beginning. -/
theorem lockClass_admission (rest : String) : lockClass ("admission:" ++ rest) = 2 := by
  have hidempotency : startsWith ("admission:" ++ rest) "reservation-idempotency:" = false :=
    startsWith_append_eq_false (by decide) rest
  have hauthority : startsWith ("admission:" ++ rest) "worker-authority:" = false :=
    startsWith_append_eq_false (by decide) rest
  simp [lockClass, hidempotency, hauthority, startsWith_append]

theorem budgetLock_eq : budgetLock tenantId workItemId =
    "admission:" ++ (tenantId.toText ++ (":budget:" ++ workItemId.toText)) := by
  unfold budgetLock
  simp only [append_assoc, toString]

@[simp] theorem lockClass_budgetLock : lockClass (budgetLock tenantId workItemId) = 2 := by
  rw [budgetLock_eq, lockClass_admission]

@[simp] theorem lockClass_reservationIdempotencyLock (tenantId : Uuid) (idempotencyKey : String) :
    lockClass (reservationIdempotencyLock tenantId idempotencyKey) = 0 := by
  have hname : reservationIdempotencyLock tenantId idempotencyKey =
      "reservation-idempotency:" ++ (tenantId.toText ++ (":" ++ idempotencyKey)) := by
    unfold reservationIdempotencyLock
    simp only [append_assoc, toString]
  rw [hname, lockClass, if_pos (startsWith_append _ _)]

@[simp] theorem lockClass_workerAuthorityLock (tenantId workerId : Uuid) :
    lockClass (workerAuthorityLock tenantId workerId) = 1 := by
  have hname : workerAuthorityLock tenantId workerId =
      "worker-authority:" ++ (tenantId.toText ++ (":" ++ workerId.toText)) := by
    unfold workerAuthorityLock
    simp only [append_assoc, toString]
  rw [hname, lockClass, startsWith_append_eq_false (by decide)]
  simp [startsWith_append]

@[simp] theorem lockClass_reservationSetLock (tenantId reservationSetId : Uuid) :
    lockClass (reservationSetLock tenantId reservationSetId) = 3 := by
  have hname : reservationSetLock tenantId reservationSetId =
      "reservation-set:" ++ (tenantId.toText ++ (":" ++ reservationSetId.toText)) := by
    unfold reservationSetLock
    simp only [append_assoc, toString]
  rw [hname, lockClass, startsWith_append_eq_false (by decide),
    startsWith_append_eq_false (by decide), startsWith_append_eq_false (by decide)]
  rfl

theorem lockClass_of_mem_admissionLockKeys {request : AdmissionReservationRequest}
    {identities : List IdentityCapacityRequest}
    (h : name ∈ admissionLockKeys request identities) : lockClass name = 2 := by
  rw [admissionLockKeys, sortDedup, List.mem_insertionSort, List.mem_dedup] at h
  simp only [List.mem_append, List.mem_cons, List.not_mem_nil, or_false, List.mem_map] at h
  rcases h with (rfl | rfl | rfl | rfl) | ⟨identity, -, rfl⟩
  · simp only [append_assoc, toString]
    exact lockClass_admission _
  · exact lockClass_budgetLock _ _
  · simp only [append_assoc, toString]
    exact lockClass_admission _
  · simp only [append_assoc, toString]
    exact lockClass_admission _
  · simp only [append_assoc, toString]
    exact lockClass_admission _

/-! ## Every path ascends -/

section SortDedup

variable {α : Type} [LinearOrder α] {l : List α}

@[simp] theorem mem_sortDedup {a : α} : a ∈ sortDedup l ↔ a ∈ l := by
  rw [sortDedup, List.mem_insertionSort, List.mem_dedup]

theorem pairwise_sortDedup (l : List α) : (sortDedup l).Pairwise (· < ·) := by
  have hnodup : (sortDedup l).Nodup :=
    (List.perm_insertionSort (· ≤ ·) _).nodup_iff.mpr l.nodup_dedup
  exact ((List.pairwise_insertionSort (· ≤ ·) l.dedup).and hnodup).imp
    fun h => lt_of_le_of_ne h.1 h.2

end SortDedup

/-- Names of one class in the order of their texts. -/
theorem pairwise_lockLevel {l : List String} {n : ℕ} (hclass : ∀ a ∈ l, lockClass a = n)
    (h : l.Pairwise (· < ·)) : l.Pairwise fun a b => lockLevel a < lockLevel b :=
  h.imp_of_mem fun ha hb hlt => lockLevel_lt_of_text ((hclass _ ha).trans (hclass _ hb).symm) hlt

/-- The budget locks of a tenant are ordered as the work items are, so a
    `BTreeSet<Uuid>` and a `BTreeSet<String>` iterate over them alike. -/
theorem budgetLock_lt_iff (tenantId a b : Uuid) :
    budgetLock tenantId a < budgetLock tenantId b ↔ a < b := by
  have hname : ∀ w, (budgetLock tenantId w).toList =
      ("admission:" ++ (tenantId.toText ++ ":budget:")).toList ++ w.toText.toList := by
    intro w
    rw [budgetLock_eq, ← String.toList_append, append_assoc, append_assoc]
  rw [lt_iff, hname, hname, Uuid.append_lt_append_iff rfl]
  simp only [lt_irrefl, true_and, false_or]
  rw [← lt_iff, Uuid.toText_lt_iff]

theorem ledgerInsertLocks_subset {tenantId workItemId : Uuid} {inserts : ℕ} {l : List String}
    (h : budgetLock tenantId workItemId ∈ l) :
    ledgerInsertLocks tenantId workItemId inserts ⊆ l := by
  intro name hname
  rw [List.eq_of_mem_replicate hname]
  exact h

theorem batchInsertLocks_subset {tenantId : Uuid} {rows : List ReservationSet}
    {inserts : ReservationSet → ℕ} {l : List String}
    (h : ∀ row ∈ rows, budgetLock tenantId row.workItemId ∈ l) :
    batchInsertLocks tenantId rows inserts ⊆ l := by
  intro name hname
  obtain ⟨row, hrow, hname⟩ := List.mem_flatMap.mp hname
  exact ledgerInsertLocks_subset (h row hrow) hname

/-- **Each transaction.** -/
theorem LockTx.ascending (tx : LockTx) : Ascending lockLevel tx.requests := by
  cases tx with
  | acquire request identities adopts =>
    have hfirst : [reservationIdempotencyLock request.tenantId request.idempotencyKey,
        workerAuthorityLock request.tenantId request.workerId].Pairwise
        fun a b => lockLevel a < lockLevel b := by
      simpa using lockLevel_lt_of_class (by simp)
    cases adopts with
    | true => exact of_pairwise hfirst (List.nil_subset _)
    | false =>
      have hbudget : budgetLock request.tenantId request.workItemId ∈
          admissionLockKeys request identities := mem_sortDedup.mpr (by simp)
      simp only [LockTx.requests, Bool.false_eq_true, if_false]
      rw [← List.append_assoc]
      refine of_pairwise (List.pairwise_append.mpr ⟨hfirst, pairwise_lockLevel
        (fun _ => lockClass_of_mem_admissionLockKeys) (pairwise_sortDedup _), ?_⟩)
        (List.cons_subset.mpr ⟨by simp, ledgerInsertLocks_subset (List.mem_append_right _ hbudget)⟩)
      intro a ha b hb
      apply lockLevel_lt_of_class
      rw [lockClass_of_mem_admissionLockKeys hb]
      simp only [List.mem_cons, List.not_mem_nil, or_false] at ha
      rcases ha with rfl | rfl <;> simp
  | transition request workItemId inserts =>
    refine of_pairwise ?_ (ledgerInsertLocks_subset (by simp))
    simpa using lockLevel_lt_of_class (by simp)
  | sweep tenantId candidates selected inserts =>
    refine of_pairwise (pairwise_lockLevel (n := 2) ?_ (pairwise_sortDedup _))
      (batchInsertLocks_subset fun row hrow => ?_)
    · intro name hname
      obtain ⟨row, -, rfl⟩ := List.mem_map.mp (mem_sortDedup.mp hname)
      simp
    · exact mem_sortDedup.mpr (List.mem_map_of_mem (List.mem_filter.mp hrow).1)
  | workerRelease tenantId workerId candidates selected inserts =>
    have hkeys : ((sortDedup (candidates.map ReservationSet.workItemId)).map
        (budgetLock tenantId)).Pairwise fun a b => lockLevel a < lockLevel b := by
      refine pairwise_lockLevel (n := 2) ?_ ?_
      · intro name hname
        obtain ⟨workItemId, -, rfl⟩ := List.mem_map.mp hname
        simp
      · rw [List.pairwise_map]
        exact (pairwise_sortDedup _).imp (budgetLock_lt_iff tenantId _ _).mpr
    refine of_pairwise
      (l := workerAuthorityLock tenantId workerId :: _) (List.pairwise_cons.mpr ⟨?_, hkeys⟩)
      (batchInsertLocks_subset fun row hrow => ?_)
    · intro name hname
      obtain ⟨workItemId, -, rfl⟩ := List.mem_map.mp hname
      exact lockLevel_lt_of_class (by simp)
    · refine List.mem_cons_of_mem _ (List.mem_map_of_mem (mem_sortDedup.mpr ?_))
      exact List.mem_map_of_mem (List.mem_filter.mp hrow).1
  | attemptRelease tenantId workItemId workerId inserts =>
    refine of_pairwise ?_ (List.append_subset.mpr ⟨List.Subset.refl _, ?_⟩)
    · simpa [attemptReleaseAuthorityLocks] using lockLevel_lt_of_class (by simp)
    · exact ledgerInsertLocks_subset (by simp [attemptReleaseAuthorityLocks])

/-! ## Concurrent transactions -/

section Concurrent

variable {ι κ : Type} {hash : String → κ} {tx : ι → LockTx}

/-- The lock names of a set of transactions. -/
def lockNames (tx : ι → LockTx) : Set String := {name | ∃ i, name ∈ (tx i).requests}

/-- The level of a hashed name. -/
noncomputable def hashLevel (hash : String → κ) (tx : ι → LockTx) (lock : κ) : ℕ ×ₗ String :=
  lockLevel (Function.invFunOn hash (lockNames tx) lock)

theorem hashLevel_hash (hinj : Set.InjOn hash (lockNames tx))
    (h : name ∈ lockNames tx) : hashLevel hash tx (hash name) = lockLevel name := by
  rw [hashLevel, hinj.leftInvOn_invFunOn h]

variable [DecidableEq κ]

/-- The hashed requests ascend as well. -/
theorem ascending_hash (hinj : Set.InjOn hash (lockNames tx)) (i : ι) :
    Ascending (hashLevel hash tx) ((tx i).requests.map hash) := by
  have hmem : ∀ name ∈ (tx i).requests, name ∈ lockNames tx := fun name h => ⟨i, h⟩
  rw [Ascending, taken_map (hinj.mono hmem), List.pairwise_map]
  refine (tx i).ascending.imp_of_mem fun ha hb hlt => ?_
  rw [hashLevel_hash hinj (hmem _ (mem_taken.mp ha)),
    hashLevel_hash hinj (hmem _ (mem_taken.mp hb))]
  exact hlt

/-- **Deadlock freedom of the reservation locks.** Every transaction takes its
    advisory locks in strictly increasing order. If the lock hash is injective
    on the names in use, no schedule of any set of concurrent transactions
    reaches a state in which some of them wait for each other in a cycle, in
    whatever order they have queued; and while finitely many of them are not
    all finished, some unfinished one does not wait. -/
theorem reservation_locks_acyclic [DecidableEq ι] (hash : String → κ) (tx : ι → LockTx)
    (hinj : Set.InjOn hash (lockNames tx)) :
    (∀ i, (taken (tx i).requests).Pairwise fun a b => lockLevel a < lockLevel b) ∧
    ∀ s, LockReachable (fun i => (tx i).requests.map hash) s → ∀ arrival : ι → ℕ,
      (∀ i, ¬ Relation.TransGen (Waits arrival s) i i) ∧
      (Finite ι → ∀ i, (s i).Unfinished → ∃ j, (s j).Unfinished ∧ ∀ k, ¬ Waits arrival s j k) := by
  refine ⟨fun i => (tx i).ascending, fun s hs arrival => ⟨?_, ?_⟩⟩
  · exact waits_acyclic hs (ascending_hash hinj) arrival
  · intro hfinite i hi
    exact exists_not_waiting hs (ascending_hash hinj) arrival hi

/-- A release and a terminal attempt release of one work item, with the names as
    their own hashes. -/
theorem two_releases_acyclic :
    let tx : Bool → LockTx := fun terminal =>
      if terminal then .attemptRelease (.ofNat 1) (.ofNat 2) (.ofNat 5) 8
      else .transition ⟨.ofNat 1, .ofNat 7, 1, "owner", "done", "release:1"⟩ (.ofNat 2) 8
    Set.InjOn id (lockNames tx) ∧
    ∀ s, LockReachable (fun i => (tx i).requests.map id) s →
      ∀ i, ¬ Relation.TransGen (Waits Bool.toNat s) i i := by
  refine ⟨Function.injective_id.injOn, fun s hs => ?_⟩
  exact ((reservation_locks_acyclic id _ Function.injective_id.injOn).2 s hs _).1

end Concurrent

end Asf.Reservations
