import Asf.Reservations.Conservation

/-!
# Reserved idempotency keys

The keys of all reservation events of a tenant live in one namespace
(`UNIQUE (tenant_id, idempotency_key)`). The ledger builds its own keys for the
transitions it makes itself; `validate_external_idempotency_key` is to keep
callers away from them.

Results:

* `isRevocationKey_iff`: the keys of worker releases, recognised by their text.
* `external_key_distinct_iff`: an accepted key differs from every key of the
  ledger exactly if it is not the text of a worker release key.
* `worker_release_blocked`: a worker whose release key is taken cannot be
  released.
-/

namespace Asf.Reservations

open Lib (Commits)

/-! ## The keys of the ledger -/

/-- A fence the ledger puts in a key: `positive_u64` of a `bigint`. -/
def IsFence (fence : ℤ) : Prop := 0 < fence ∧ fence ≤ i64Max

/-- The keys that the ledger itself builds for reservation transitions. -/
inductive GeneratedKey : String → Prop
  | expirySweep (reservationSetId : Uuid) (fence : ℤ) (h : IsFence fence) :
      GeneratedKey (expirySweepIdempotencyKey reservationSetId fence)
  | attemptRelease (ns : AttemptReservationReleaseNamespace)
      (workItemId attemptId reservationSetId : Uuid) (fence : ℤ) (h : IsFence fence) :
      GeneratedKey (ns.idempotencyKey workItemId attemptId reservationSetId fence)
  | workerRevocation (workerSessionId : Option Uuid) (reservationSetId : Uuid) (fence : ℤ)
      (h : IsFence fence) :
      GeneratedKey (workerRevocationIdempotencyKey workerSessionId reservationSetId fence)

/-! ## The text of a worker release key -/

/-- The decimal text of a positive `bigint`, without sign or leading zeros. -/
def isFenceText (l : List Char) : Bool :=
  let n := Nat.ofDigitChars 10 l 0
  decide (0 < n ∧ (n : ℤ) ≤ i64Max) && Nat.toDigits 10 n == l

/-- `legacy` or the text of a UUID. -/
def isSessionComponent (l : List Char) : Bool :=
  l == "legacy".toList || (Uuid.ofChars? l).isSome

/-- `worker-session-revocation:v1:<session>:<set>:fence:<fence>`. -/
def isRevocationKey (value : String) : Bool :=
  match value.toList.splitOn ':' with
  | [name, version, session, reservationSet, marker, fence] =>
    name == "worker-session-revocation".toList && version == "v1".toList
      && isSessionComponent session && (Uuid.ofChars? reservationSet).isSome
      && marker == "fence".toList && isFenceText fence
  | _ => false

theorem isFenceText_iff {l : List Char} :
    isFenceText l ↔ ∃ n : ℕ, IsFence n ∧ l = Nat.toDigits 10 n := by
  simp only [isFenceText, Bool.and_eq_true, decide_eq_true_eq, beq_iff_eq]
  constructor
  · rintro ⟨⟨hpos, hle⟩, hl⟩
    exact ⟨_, ⟨by exact_mod_cast hpos, hle⟩, hl.symm⟩
  · rintro ⟨n, ⟨hpos, hle⟩, rfl⟩
    rw [Nat.ofDigitChars_ten_toDigits]
    exact ⟨⟨by exact_mod_cast hpos, hle⟩, rfl⟩

/-- The characters between the colons that name the session. -/
def sessionChars (workerSessionId : Option Uuid) : List Char :=
  (workerSessionId.map Uuid.chars).getD "legacy".toList

theorem isSessionComponent_iff {l : List Char} :
    isSessionComponent l ↔ ∃ workerSessionId, l = sessionChars workerSessionId := by
  simp only [isSessionComponent, Bool.or_eq_true, beq_iff_eq, Option.isSome_iff_exists,
    Uuid.ofChars?_eq_some_iff]
  constructor
  · rintro (rfl | ⟨u, rfl⟩)
    · exact ⟨none, rfl⟩
    · exact ⟨some u, rfl⟩
  · rintro ⟨_ | u, rfl⟩
    · exact .inl rfl
    · exact .inr ⟨u, rfl⟩

section Fields

variable (workerSessionId : Option Uuid) (reservationSetId : Uuid) (fence : ℕ)

/-- The six fields of a worker release key. -/
def revocationFields : List (List Char) :=
  ["worker-session-revocation".toList, "v1".toList, sessionChars workerSessionId,
    reservationSetId.chars, "fence".toList, Nat.toDigits 10 fence]

theorem workerRevocationIdempotencyKey_eq (fence : ℤ)
    : workerRevocationIdempotencyKey workerSessionId reservationSetId fence =
      "worker-session-revocation:v1:" ++ ((workerSessionId.map toString).getD "legacy" ++ (":"
        ++ (reservationSetId.toText ++ (":fence:" ++ toString fence)))) := by
  unfold workerRevocationIdempotencyKey
  simp only [String.append_assoc, toString]

theorem toList_workerRevocationIdempotencyKey :
    (workerRevocationIdempotencyKey workerSessionId reservationSetId fence).toList =
      [':'].intercalate (revocationFields workerSessionId reservationSetId fence) := by
  have hsession : ((workerSessionId.map toString).getD "legacy").toList =
      sessionChars workerSessionId := by
    cases workerSessionId with
    | none => rfl
    | some u => exact String.toList_ofList
  have hset : reservationSetId.toText.toList = reservationSetId.chars := String.toList_ofList
  have hfence : (toString (fence : ℤ)).toList = Nat.toDigits 10 fence := by
    rw [Int.toString_eq_repr, Int.repr_eq_if, if_pos (Int.natCast_nonneg _), Int.toNat_natCast,
      Nat.toList_repr]
  have hname : "worker-session-revocation:v1:".toList =
      "worker-session-revocation".toList ++ ':' :: ("v1".toList ++ [':']) := by decide
  have hmarker : ":fence:".toList = ':' :: ("fence".toList ++ [':']) := by decide
  have hcolon : ":".toList = [':'] := by decide
  rw [workerRevocationIdempotencyKey_eq]
  simp only [revocationFields, String.toList_append, hsession, hset, hfence, hname, hmarker, hcolon]
  generalize "worker-session-revocation".toList = a
  generalize "v1".toList = b
  generalize "fence".toList = c
  simp [List.intercalate]

theorem colon_notMem_revocationFields :
    ∀ l ∈ revocationFields workerSessionId reservationSetId fence, ':' ∉ l := by
  have hsession : ':' ∉ sessionChars workerSessionId := by
    cases workerSessionId with
    | none => decide
    | some u => exact u.colon_notMem_chars
  have hfence : ':' ∉ Nat.toDigits 10 fence := fun h =>
    absurd (Nat.isDigit_of_mem_toDigits (by decide) (by decide) h) (by decide)
  simp only [revocationFields, List.mem_cons, List.not_mem_nil, or_false, forall_eq_or_imp,
    forall_eq]
  exact ⟨by decide, by decide, hsession, reservationSetId.colon_notMem_chars, by decide, hfence⟩

end Fields

/-- **The text of the worker release keys.** -/
theorem isRevocationKey_iff {value : String} :
    isRevocationKey value ↔ ∃ workerSessionId reservationSetId fence, IsFence fence ∧
      value = workerRevocationIdempotencyKey workerSessionId reservationSetId fence := by
  constructor
  · intro h
    unfold isRevocationKey at h
    split at h
    · rename_i name version session reservationSet marker fence hsplit
      simp only [Bool.and_eq_true, beq_iff_eq, isSessionComponent_iff, isFenceText_iff,
        Option.isSome_iff_exists, Uuid.ofChars?_eq_some_iff] at h
      obtain ⟨⟨⟨⟨⟨rfl, rfl⟩, sessionId, rfl⟩, setId, rfl⟩, rfl⟩, n, hfence, rfl⟩ := h
      refine ⟨sessionId, setId, n, hfence, String.toList_inj.mp ?_⟩
      rw [toList_workerRevocationIdempotencyKey, revocationFields, ← hsplit,
        List.intercalate_splitOn]
    · exact absurd h (by simp)
  · rintro ⟨sessionId, setId, fence, hfence, rfl⟩
    obtain ⟨n, rfl⟩ := Int.eq_ofNat_of_zero_le hfence.1.le
    have hsplit : (workerRevocationIdempotencyKey sessionId setId n).toList.splitOn ':' =
        revocationFields sessionId setId n := by
      rw [toList_workerRevocationIdempotencyKey, List.splitOn_intercalate _
        (colon_notMem_revocationFields sessionId setId n) (by simp [revocationFields])]
    unfold isRevocationKey
    rw [hsplit]
    simp only [revocationFields, Bool.and_eq_true, beq_self_eq_true, true_and, and_true,
      isSessionComponent_iff, isFenceText_iff, Option.isSome_iff_exists, Uuid.ofChars?_eq_some_iff]
    exact ⟨⟨⟨sessionId, rfl⟩, setId, rfl⟩, n, hfence, rfl⟩

/-! ## What the validation keeps out -/

theorem startsWith_expirySweepIdempotencyKey (reservationSetId : Uuid) (fence : ℤ) :
    startsWith (expirySweepIdempotencyKey reservationSetId fence)
      internalIdempotencyNamespacePrefix := by
  have hstart : expirySweepIdempotencyPrefix =
      internalIdempotencyNamespacePrefix ++ "reservation-expiry:v1:" := by decide
  rw [expirySweepIdempotencyKey, hstart]
  simp only [String.append_assoc, toString]
  exact startsWith_append _ _

/-- The namespace a terminal attempt release writes its keys in. -/
def AttemptReservationReleaseNamespace.reserved : AttemptReservationReleaseNamespace → String
  | .workClosure => workClosureIdempotencyPrefix
  | .runmillCancellation _ => runmillCancellationIdempotencyPrefix

theorem startsWith_idempotencyKey (ns : AttemptReservationReleaseNamespace)
    (workItemId attemptId reservationSetId : Uuid) (fence : ℤ) :
    startsWith (ns.idempotencyKey workItemId attemptId reservationSetId fence) ns.reserved := by
  have hstart : ns.reserved = ns.namespacePrefix ++ ":v1:" := by
    cases ns with
    | workClosure => decide
    | runmillCancellation _ =>
      show runmillCancellationIdempotencyPrefix = "runmill-cancellation" ++ ":v1:"
      decide
  rw [AttemptReservationReleaseNamespace.idempotencyKey, hstart]
  simp only [String.append_assoc, toString]
  rw [← String.append_assoc]
  exact startsWith_append _ _

variable {label value : String}

/-- An accepted key is outside the three reserved namespaces. -/
theorem not_startsWith_of_accepted (h : validateExternalIdempotencyKey label value = .ok ())
    {start : String} (hstart : start ∈ [internalIdempotencyNamespacePrefix,
      workClosureIdempotencyPrefix, runmillCancellationIdempotencyPrefix]) :
    ¬ startsWith value start := by
  intro hvalue
  unfold validateExternalIdempotencyKey validateSafeText at h
  rw [failIf_bind_eq_ok_iff] at h
  exact failIf_eq_ok_iff.mp h.2 (List.any_eq_true.mpr ⟨start, hstart, hvalue⟩)

/-- **Reserved idempotency namespaces.** An accepted key differs from every key
    the ledger builds exactly if it is not of the form
    `worker-session-revocation:v1:<session>:<set>:fence:<fence>`. -/
theorem external_key_distinct_iff (h : validateExternalIdempotencyKey label value = .ok ()) :
    (∀ key, GeneratedKey key → value ≠ key) ↔ isRevocationKey value = false := by
  rw [← Bool.not_eq_true, isRevocationKey_iff]
  constructor
  · rintro hdistinct ⟨sessionId, setId, fence, hfence, heq⟩
    exact hdistinct _ (.workerRevocation sessionId setId fence hfence) heq
  · rintro hshape _ (⟨setId, fence, -⟩ | ⟨ns, workItemId, attemptId, setId, fence, -⟩ |
      ⟨sessionId, setId, fence, hfence⟩) rfl
    · exact not_startsWith_of_accepted h (by simp)
        (startsWith_expirySweepIdempotencyKey setId fence)
    · refine not_startsWith_of_accepted h ?_
        (startsWith_idempotencyKey ns workItemId attemptId setId fence)
      cases ns <;> simp [AttemptReservationReleaseNamespace.reserved]
    · exact hshape ⟨sessionId, setId, fence, hfence, rfl⟩

/-- An ordinary key. -/
theorem ordinary_key_distinct :
    validateExternalIdempotencyKey "reservation transition idempotency key" "release:1" = .ok () ∧
      ∀ key, GeneratedKey key → "release:1" ≠ key := by
  have haccepted : validateExternalIdempotencyKey "reservation transition idempotency key"
      "release:1" = .ok () := by decide +kernel
  exact ⟨haccepted, (external_key_distinct_iff haccepted).mpr (by decide +kernel)⟩

/-- The key of a worker release is accepted from a caller. -/
theorem revocation_key_accepted :
    validateExternalIdempotencyKey "reservation transition idempotency key"
      (workerRevocationIdempotencyKey (some (.ofNat 6)) (.ofNat 7) 1) = .ok () ∧
    GeneratedKey (workerRevocationIdempotencyKey (some (.ofNat 6)) (.ofNat 7) 1) :=
  ⟨by decide +kernel, .workerRevocation (some (.ofNat 6)) (.ofNat 7) 1 ⟨by decide, by decide⟩⟩

/-! ## What a taken key does -/

section Taken

variable {s s' : Session Db} {target : ReservationTerminalState} {actorId reason : String}
  {key : ReservationSet → String} {receiptId : Option Uuid}

/-- The event of an internal transition has the key of its row. -/
theorem transitionRow_event {row : ReservationSet} {receipt : ReservationTransitionReceipt}
    (h : Commits (transitionRow target actorId reason key receiptId row) s receipt s') :
    ∃ event, event.tenantId = row.tenantId ∧ event.idempotencyKey = key row ∧
      s'.db.setEvents.rows = s.db.setEvents.rows ++ [event] ∧
      ∀ e ∈ s.db.setEvents.rows, ¬ e.SameKey event := by
  simp only [transitionRow, Lib.commits_ofExcept_bind] at h
  obtain ⟨expectedFenceToken, hfence, h⟩ := h
  rw [← positiveU64_eq_ok hfence] at h
  obtain ⟨_, _, _, _, _, -, hsettled⟩ := applyActiveReservationTransition_settles h
  exact ⟨_, rfl, rfl, hsettled.events, hsettled.event_fresh⟩

/-- The keys of a committed batch were all free. -/
theorem transitionRows_keys_free {rows : List ReservationSet}
    {receipts : List ReservationTransitionReceipt}
    (h : Commits (rows.mapM (transitionRow target actorId reason key receiptId)) s receipts s') :
    ∀ row ∈ rows, ∀ e ∈ s.db.setEvents.rows,
      ¬ (e.tenantId = row.tenantId ∧ e.idempotencyKey = key row) := by
  -- the events of `s` are still there at every turn, so each new key differs from theirs
  refine (Lib.mapM_invariant (fun done _ s₁ => s.db.setEvents.rows ⊆ s₁.db.setEvents.rows ∧
    ∀ row ∈ done, ∀ e ∈ s.db.setEvents.rows,
      ¬ (e.tenantId = row.tenantId ∧ e.idempotencyKey = key row)) ?_
    ⟨List.Subset.refl _, by simp⟩ h).2
  intro done answers row s₁ receipt s₂ ⟨hsubset, hfree⟩ hrow
  obtain ⟨event, htenant, hkey, hevents, hfresh⟩ := transitionRow_event hrow
  refine ⟨?_, ?_⟩
  · rw [hevents]
    exact List.subset_append_of_subset_left _ hsubset
  · intro other hother e he
    rcases List.mem_append.mp hother with hdone | hnew
    · exact hfree other hdone e he
    · rw [List.mem_singleton.mp hnew, ← htenant, ← hkey]
      exact hfresh e (hsubset he)

/-- Some event of the tenant has the release key of an active set of the worker. -/
abbrev ReleaseKeyTaken (db : Db) (tenantId workerId : Uuid) : Prop :=
  ∃ set ∈ db.reservationSets.rows, set.tenantId = tenantId ∧ set.workerId = workerId ∧
    set.state = .active ∧ ∃ event ∈ db.setEvents.rows, event.tenantId = tenantId ∧
      event.idempotencyKey = workerRevocationIdempotencyKey set.workerSessionId set.id
        set.fenceToken

/-- **A taken key blocks the revocation.** The release of the worker's reservations
    fails, and with it the transaction that revokes the session. -/
theorem worker_release_blocked {tenantId workerId : Uuid}
    (htaken : ReleaseKeyTaken s.db tenantId workerId) (n : ℕ) :
    ¬ Commits (releaseActiveWorkerReservations tenantId workerId actorId reason) s n s' := by
  obtain ⟨set, hset, htenant, hworker, hactive, event, hevent, hkey⟩ := htaken
  intro h
  simp only [releaseActiveWorkerReservations, commits_select_bind] at h
  obtain ⟨receipts, s₁, hrows, -⟩ := Lib.commits_bind.mp h
  refine transitionRows_keys_free hrows set ?_ event hevent (htenant ▸ hkey)
  rw [List.mem_insertionSort, List.mem_filter]
  exact ⟨hset, by simp [htenant, hworker, hactive]⟩

/-- An admission under the key of its set's release. -/
theorem worker_release_blocked_admitted :
    let admission := { sampleAdmission with
      idempotencyKey := workerRevocationIdempotencyKey (some (.ofNat 6)) (.ofNat 7) 1 }
    let state := (ledger sampleCodec).next (initial 0 sampleConfig)
      (sampleRequest 1 (.acquire admission))
    ¬ ∃ s', Commits (releaseActiveWorkerReservations (.ofNat 1) (.ofNat 5) "owner" "lost")
      ((sampleRequest 2 (.acquire admission)).session state) 1 s' :=
  fun ⟨_, h⟩ => worker_release_blocked (by decide +kernel) 1 h

end Taken

end Asf.Reservations
