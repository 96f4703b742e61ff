import Asf.Adapters.RunmillControl
import Asf.Lib.Panicking

/-!
# Pages of run events (`src/adapters/runmill_control.rs`)

A run's events are listed page by page, each page asked for at the cursor of the one
before it. A page is checked by itself and against the request it answers.

Results:

* `validateForRequest_eq_ok`: what one accepted page without a gap holds.
* `event_paging_gapFree`: the pages of a whole chain together.
-/

namespace Asf.Adapters

open Lib

/-! ## Runs and their events -/

/-- `RunmillRunPhase` (lines 394-427). -/
inductive RunmillRunPhase where
  | received | admitted | repositoryLeased | identityReady | workspaceReady | taskPacketReady
  | implementing | candidateReady | localVerify | localReview | fixing | deliveryReady | pushed
  | prOpen | ciWait | prReview | prDelivered | mergeQueueWait | mergeReady | merged
  | evidenceFinalized | completed | cancelRequested | cancelling | waitingApproval | needsSpec
  | blockedExternal | budgetExhausted | refused | quarantined | cancelled | failed
deriving DecidableEq

/-- `RunmillRunPhase::terminal` (lines 431-441). -/
def RunmillRunPhase.terminal : RunmillRunPhase → Bool
  | .completed | .cancelled | .failed | .refused | .quarantined | .budgetExhausted => true
  | _ => false

/-- `RunmillRunRow` (lines 446-463). -/
structure RunmillRunRow where
  (runId issueId repo provider : String)
  state : RunmillRunPhase
  (stateVersion attempt : ℕ)
  (baseCommit candidateSha branch : Option String)
  (mode workOrderId attemptId : String)
  generation : ℕ
  ownerId : Option String

/-- `RunmillRunRow::validate` (lines 2008-2039). -/
def RunmillRunRow.validate (row : RunmillRunRow) : Exec RunmillControlError Unit := do
  Exec.failIf
    (¬ validPublicString row.issueId 1024 ∨ ¬ validRepository row.repo
      ∨ ¬ validPublicString row.provider 1024 ∨ row.stateVersion = 0
      ∨ row.stateVersion > maxSafeInteger ∨ row.attempt = 0 ∨ row.attempt > maxSafeInteger
      ∨ row.generation > maxSafeInteger ∨ row.mode ≠ "asf-worker"
      ∨ ¬ validPublicString row.workOrderId 1024 ∨ ¬ validPublicString row.attemptId 1024)
    .malformedResponse
  (row.baseCommit.toList ++ row.candidateSha.toList).forM fun sha =>
    Exec.failIf (¬ validGitSha sha false) .malformedResponse
  (row.branch.toList ++ row.ownerId.toList).forM fun value =>
    Exec.failIf (¬ validPublicString value 1024) .malformedResponse

/-- `RunmillRunEvent` (lines 542-556). -/
structure RunmillRunEvent where
  (schema eventId runId workOrderId attemptId : String)
  seq : ℕ
  eventType : String
  phase : RunmillRunPhase
  payload : Map
  policyDigest : String

/-- `RunmillEventPage` (lines 569-576) with its snapshot. -/
structure RunmillEventPage where
  events : List RunmillRunEvent
  nextCursor : ℕ
  (hasMore gap : Bool)
  compactedThrough : Option ℕ
  run : RunmillRunRow
  latestSequence : ℕ

/-! ## The checks -/

/-- `left.checked_add(right)` on `u64`. -/
def checkedAddU64 (left right : ℕ) : Option ℕ :=
  if left + right ≤ u64Max then some (left + right) else none

/-- `left + right` on `u64`. -/
def addU64 (left right : ℕ) : Exec RunmillControlError ℕ :=
  Exec.expect "attempt to add with overflow" (checkedAddU64 left right)

/-- `RunmillRunEvent::validate` (lines 2066-2078). `validateEventPayload` is the
    check of the payload by the type of the event. -/
def RunmillRunEvent.validate (validateEventPayload : RunmillRunEvent → RunmillControlResult Unit)
    (event : RunmillRunEvent) : Exec RunmillControlError Unit := do
  Exec.failIf
    (event.schema ≠ "asf.run-event/v1" ∨ ¬ validPublicString event.eventId 1024
      ∨ ¬ validPublicString event.workOrderId 1024 ∨ ¬ validPublicString event.attemptId 1024
      ∨ event.seq = 0 ∨ event.seq > maxSafeInteger)
    .malformedResponse
  Exec.failIf (¬ validDigest event.policyDigest) .malformedResponse
  Exec.lift (validateEventPayload event)

namespace RunmillEventPage

/-- `event_sequences_are_contiguous` (lines 1642-1646). -/
def eventSequencesAreContiguous (page : RunmillEventPage) : Bool :=
  (page.events.zip page.events.tail).all fun pair => checkedAddU64 pair.1.seq 1 == some pair.2.seq

/-- `ExactResponse::validate` (lines 1613-1638). -/
def validate (validateEventPayload : RunmillRunEvent → RunmillControlResult Unit)
    (page : RunmillEventPage) : Exec RunmillControlError Unit := do
  page.run.validate
  Exec.failIf
    (page.latestSequence = 0 ∨ page.latestSequence > maxSafeInteger
      ∨ page.latestSequence ≠ page.run.stateVersion ∨ page.nextCursor > maxSafeInteger
      ∨ page.gap ≠ page.compactedThrough.isSome
      ∨ page.compactedThrough.any fun sequence => sequence > page.latestSequence)
    .malformedResponse
  page.events.forM fun event => do
    event.validate validateEventPayload
    Exec.failIf
      (event.runId ≠ page.run.runId ∨ event.workOrderId ≠ page.run.workOrderId
        ∨ event.attemptId ≠ page.run.attemptId ∨ event.seq > page.latestSequence)
      .malformedResponse
  Exec.failIf (¬ page.eventSequencesAreContiguous) .malformedResponse

/-- The first event against the cursor of the request (lines 1686-1702). -/
def validateStart (page : RunmillEventPage) (after : ℕ) : Exec RunmillControlError Unit :=
  if page.gap then do
    let compacted ← Exec.lift (okOr .malformedResponse page.compactedThrough)
    Exec.failIf (compacted ≤ after) .malformedResponse
    let next ← addU64 compacted 1
    Exec.failIf (page.events.head?.map (·.seq) ≠ some next) .malformedResponse
  else do
    Exec.failIf page.compactedThrough.isSome .malformedResponse
    page.events.head?.toList.forM fun event => do
      let next ← addU64 after 1
      Exec.failIf (event.seq ≠ next) .malformedResponse

/-- `validate_for_request` (lines 1673-1718). -/
def validateForRequest (page : RunmillEventPage) (runId : String) (after limit : ℕ) :
    Exec RunmillControlError Unit := do
  Exec.failIf
    (page.run.runId ≠ runId ∨ page.events.length > limit ∨ ¬ page.eventSequencesAreContiguous)
    .malformedResponse
  page.validateStart after
  Exec.failIf
    (if page.events.isEmpty then
      page.gap ∨ after ≠ page.latestSequence ∨ page.nextCursor ≠ page.latestSequence ∨ page.hasMore
    else page.events.getLast?.map (·.seq) ≠ some page.nextCursor)
    .malformedResponse
  Exec.failIf
    (if page.hasMore then page.events.length ≠ limit ∨ page.nextCursor ≥ page.latestSequence
    else page.nextCursor ≠ page.latestSequence)
    .malformedResponse

end RunmillEventPage

/-! ## One page -/

section Page

variable {validateEventPayload : RunmillRunEvent → RunmillControlResult Unit}
  {page : RunmillEventPage} {runId : String} {after limit : ℕ}

theorem checkedAddU64_eq_some_iff {left right sum : ℕ} :
    checkedAddU64 left right = some sum ↔ left + right = sum ∧ sum ≤ u64Max := by
  unfold checkedAddU64
  split_ifs with h <;> simp only [Option.some.injEq, false_iff] <;> omega

/-- Contiguous events count up from the first. -/
theorem seqs_eq_range' {events : List RunmillRunEvent}
    (h : (events.zip events.tail).all fun pair => checkedAddU64 pair.1.seq 1 == some pair.2.seq)
    {start : ℕ} (hstart : ∀ event ∈ events.head?, event.seq = start) :
    events.map (·.seq) = List.range' start events.length := by
  induction events generalizing start with
  | nil => rfl
  | cons event events ih =>
    have hseq : event.seq = start := hstart event rfl
    rw [List.map_cons, List.length_cons, List.range'_succ, hseq]
    congr 1
    cases events with
    | nil => rfl
    | cons next events =>
      simp only [List.tail_cons, List.zip_cons_cons, List.all_cons, Bool.and_eq_true,
        beq_iff_eq, checkedAddU64_eq_some_iff] at h
      refine ih h.2 ?_
      rintro _ ⟨⟩
      rw [← h.1.1, hseq]

/-- The bounds a page keeps. -/
theorem validate_eq_ok (h : page.validate validateEventPayload = .ok ()) :
    page.nextCursor ≤ maxSafeInteger ∧ (∀ event ∈ page.events, event.seq ≤ maxSafeInteger)
      ∧ ∀ compacted ∈ page.compactedThrough, compacted ≤ maxSafeInteger := by
  simp only [RunmillEventPage.validate, RunmillRunEvent.validate, seq_eq_ok_iff, forM_eq_ok_iff,
    Exec.failIf_eq_ok_iff, not_or, not_lt, gt_iff_lt, Option.any_eq_true, decide_eq_true_eq,
    not_exists, not_and] at h
  obtain ⟨-, ⟨-, hlatest, -, hcursor, -, hcompacted⟩, hevents, -⟩ := h
  exact ⟨hcursor, fun event hevent => (hevents event hevent).1.1.2.2.2.2.2,
    fun compacted hmem => (hcompacted compacted hmem).trans hlatest⟩

theorem validateStart_eq_ok (h : page.validateStart after = .ok ()) (hgap : page.gap = false) :
    ∀ event ∈ page.events.head?, event.seq = after + 1 := by
  intro event hevent
  simp only [RunmillEventPage.validateStart, hgap, Bool.false_eq_true, if_false, forM_eq_ok_iff,
    exists_unit_iff, Option.mem_toList, bind_eq_ok_iff, addU64, Exec.expect_eq_ok_iff,
    checkedAddU64_eq_some_iff, Exec.failIf_eq_ok_iff, not_not] at h
  obtain ⟨next, ⟨hnext, -⟩, hseq⟩ := h.2 event hevent
  exact hseq.trans hnext.symm

/-- An accepted page without a gap starts right after the cursor of its request and ends
    at its own. -/
theorem validateForRequest_eq_ok (h : page.validateForRequest runId after limit = .ok ())
    (hgap : page.gap = false) :
    page.events.map (·.seq) = List.range' (after + 1) page.events.length
      ∧ page.nextCursor = after + page.events.length
      ∧ (page.hasMore ↔ page.nextCursor < page.latestSequence) := by
  simp only [RunmillEventPage.validateForRequest, seq_eq_ok_iff, Exec.failIf_eq_ok_iff,
    not_or, not_not] at h
  obtain ⟨⟨-, -, hcontiguous⟩, hstart, hcursor, hmore⟩ := h
  have hseqs := seqs_eq_range' hcontiguous (validateStart_eq_ok hstart hgap)
  refine ⟨hseqs, ?_, ?_⟩
  · by_cases hempty : page.events = []
    · simp [hempty] at hcursor
      simp [hempty, hcursor]
    · have hlast : page.events.getLast?.map (·.seq) = some (after + page.events.length) := by
        rw [← List.getLast?_map, hseqs, List.getLast?_range']
        simp [hempty]
      simp [hempty, hlast] at hcursor
      exact hcursor.symm
  · cases hvalue : page.hasMore <;> simp [hvalue] at hmore ⊢ <;> omega

/-- A checked page makes no sum overflow. -/
theorem validateForRequest_noPanic (h : page.validate validateEventPayload = .ok ())
    (hafter : after ≤ maxSafeInteger) : NoPanic (page.validateForRequest runId after limit) := by
  obtain ⟨-, -, hcompacted⟩ := validate_eq_ok h
  have hadd : ∀ n ≤ maxSafeInteger, NoPanic (addU64 n 1) := by
    intro n hn
    refine .expect ?_ _
    rw [checkedAddU64, if_pos ((Nat.succ_le_succ hn).trans (by decide))]
    exact Option.some_ne_none _
  have hstart : NoPanic (page.validateStart after) := by
    unfold RunmillEventPage.validateStart
    split_ifs
    · refine .bind (.lift _) fun compacted hread => .seq (.failIf _ _) <| .bind (hadd _ ?_)
        fun _ _ => .failIf _ _
      rw [Exec.lift_eq_ok_iff, okOr_eq_ok_iff] at hread
      exact hcompacted compacted hread
    · exact .seq (.failIf _ _) <| .forM fun _ _ => .bind (hadd _ hafter) fun _ _ => .failIf _ _
  exact .seq (.failIf _ _) <| .seq hstart <| .seq (.failIf _ _) (.failIf _ _)

end Page

/-! ## Chains of pages -/

/-- The pages answer requests with the given limits, the first after `after` and each other
    one at the cursor of the page before it. All are accepted and none reports a gap. -/
def PageChain (validateEventPayload : RunmillRunEvent → RunmillControlResult Unit)
    (runId : String) : ℕ → List (ℕ × RunmillEventPage) → Prop
  | _, [] => True
  | after, (limit, page) :: pages =>
    page.validate validateEventPayload = .ok () ∧ page.validateForRequest runId after limit = .ok ()
      ∧ page.gap = false ∧ PageChain validateEventPayload runId page.nextCursor pages

/-- The cursors of the requests, that of the next one last. -/
def cursors (after : ℕ) (pages : List (ℕ × RunmillEventPage)) : List ℕ :=
  after :: pages.map fun entry => entry.2.nextCursor

section Chain

variable {validateEventPayload : RunmillRunEvent → RunmillControlResult Unit} {runId : String}
  {after : ℕ} {pages : List (ℕ × RunmillEventPage)}

section

variable (h : PageChain validateEventPayload runId after pages)

include h

/-- The events of a chain follow each other from its first cursor to its last. -/
theorem PageChain.seqs :
    ∃ count, (cursors after pages).getLast? = some (after + count)
      ∧ (pages.flatMap fun entry => entry.2.events).map (·.seq)
        = List.range' (after + 1) count := by
  induction pages generalizing after with
  | nil => exact ⟨0, rfl, rfl⟩
  | cons entry pages ih =>
    obtain ⟨-, hrequest, hgap, hrest⟩ := h
    obtain ⟨hseqs, hcursor, -⟩ := validateForRequest_eq_ok hrequest hgap
    obtain ⟨count, hlast, hevents⟩ := ih hrest
    refine ⟨entry.2.events.length + count, ?_, ?_⟩
    · rw [← Nat.add_assoc, ← hcursor, ← hlast]
      rfl
    · rw [List.flatMap_cons, List.map_append, hseqs, hevents, hcursor, Nat.add_right_comm,
        List.range'_append_1]

theorem PageChain.cursors_sorted : (cursors after pages).Pairwise (· ≤ ·) := by
  induction pages generalizing after with
  | nil => exact List.pairwise_singleton _ _
  | cons entry pages ih =>
    obtain ⟨-, hrequest, hgap, hrest⟩ := h
    obtain ⟨-, hcursor, -⟩ := validateForRequest_eq_ok hrequest hgap
    have hsorted := ih hrest
    refine List.pairwise_cons.mpr ⟨fun cursor hmem => ?_, hsorted⟩
    rcases List.mem_cons.mp hmem with rfl | hmem
    · exact Nat.le.intro hcursor.symm
    · exact (Nat.le.intro hcursor.symm).trans (List.rel_of_pairwise_cons hsorted hmem)

/-- What holds for the page that answers a request of the chain. -/
theorem PageChain.forall_mem :
    ∀ entry ∈ pages, entry.2.validate validateEventPayload = .ok ()
      ∧ (entry.2.hasMore ↔ entry.2.nextCursor < entry.2.latestSequence) := by
  induction pages generalizing after with
  | nil => exact List.forall_mem_nil _
  | cons entry pages ih =>
    obtain ⟨hvalid, hrequest, hgap, hrest⟩ := h
    exact List.forall_mem_cons.mpr
      ⟨⟨hvalid, (validateForRequest_eq_ok hrequest hgap).2.2⟩, ih hrest⟩

end

/-- No cursor of a chain leaves the safe integers. -/
theorem PageChain.cursors_le (h : PageChain validateEventPayload runId 0 pages) :
    ∀ cursor ∈ cursors 0 pages, cursor ≤ maxSafeInteger := by
  intro cursor hmem
  rcases List.mem_cons.mp hmem with rfl | hmem
  · exact Nat.zero_le _
  · obtain ⟨entry, hentry, rfl⟩ := List.mem_map.mp hmem
    exact (validate_eq_ok (h.forall_mem entry hentry).1).1

end Chain

/-- Pages that are accepted one after another and report no gap hold each event up to the
    last cursor once, in order. Their cursors never decrease, a page has more exactly if its
    cursor is below its latest sequence, and no sum of sequences overflows: neither for
    the pages of the chain nor for any other page that is checked at one of its cursors. -/
theorem event_paging_gapFree
    (validateEventPayload : RunmillRunEvent → RunmillControlResult Unit) (runId : String)
    (pages : List (ℕ × RunmillEventPage)) (h : PageChain validateEventPayload runId 0 pages) :
    (∃ final, (cursors 0 pages).getLast? = some final
      ∧ (pages.flatMap fun entry => entry.2.events).map (·.seq) = List.range' 1 final)
    ∧ (cursors 0 pages).Pairwise (· ≤ ·)
    ∧ (∀ entry ∈ pages, entry.2.hasMore ↔ entry.2.nextCursor < entry.2.latestSequence)
    ∧ (∀ entry ∈ pages, ∀ event ∈ entry.2.events, event.seq + 1 ≤ u64Max)
    ∧ ∀ cursor ∈ cursors 0 pages, ∀ (page : RunmillEventPage) (limit : ℕ),
      page.validate validateEventPayload = .ok () →
      NoPanic (page.validateForRequest runId cursor limit) := by
  obtain ⟨final, hlast, hevents⟩ := h.seqs
  rw [Nat.zero_add] at hlast
  refine ⟨⟨final, hlast, hevents⟩, h.cursors_sorted, fun entry hentry =>
    (h.forall_mem entry hentry).2, fun entry hentry event hevent => ?_,
    fun cursor hcursor page limit hvalid =>
      validateForRequest_noPanic hvalid (h.cursors_le cursor hcursor)⟩
  have hseq := (validate_eq_ok (h.forall_mem entry hentry).1).2.1 event hevent
  exact (Nat.succ_le_succ hseq).trans (by decide)

/-- A run with two events. -/
def leasedRun : RunmillRunRow :=
  { runId := "run", issueId := "issue", repo := "owner/name", provider := "codex"
    state := .repositoryLeased, stateVersion := 2, attempt := 1, baseCommit := none
    candidateSha := none, branch := none, mode := "asf-worker", workOrderId := "order"
    attemptId := "attempt", generation := 1, ownerId := none }

/-- The page with one of the two events. -/
def leasePage (seq : ℕ) : RunmillEventPage :=
  { events :=
      [{ schema := "asf.run-event/v1", eventId := "event", runId := "run", workOrderId := "order"
         attemptId := "attempt", seq, eventType := "repository.lease_acquired"
         phase := .repositoryLeased
         payload := [("repository", .str "owner/name"), ("generation", .num 1 0)]
         policyDigest := Contracts.sampleDigest }]
    nextCursor := seq, hasMore := seq == 1, gap := false, compactedThrough := none
    run := leasedRun, latestSequence := 2 }

/-- The check of the payload on acquired leases. -/
def leasePayload (event : RunmillRunEvent) : RunmillControlResult Unit :=
  if event.phase = .repositoryLeased
      ∧ ((event.payload.get "repository").bind Json.asStr).any validRepository
      ∧ ((event.payload.get "generation").bind Json.asU64).any (0 < ·) then .ok ()
  else .error .malformedResponse

theorem leasePage_validate : ∀ seq ∈ [1, 2], (leasePage seq).validate leasePayload = .ok () := by
  decide

theorem event_paging_two :
    ((([(1, leasePage 1), (1, leasePage 2)] : List (ℕ × RunmillEventPage)).flatMap
      fun entry => entry.2.events).map (·.seq)) = [1, 2] := by
  obtain ⟨⟨final, hlast, hevents⟩, -⟩ := event_paging_gapFree leasePayload "run"
    [(1, leasePage 1), (1, leasePage 2)]
    ⟨leasePage_validate 1 (by decide), by decide, rfl, leasePage_validate 2 (by decide), by decide,
      rfl, trivial⟩
  obtain rfl := Option.some.inj hlast
  exact hevents

end Asf.Adapters
