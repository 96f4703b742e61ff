import Asf.Common.Basic
import Asf.Lib.Sorting
import Asf.Lib.Collect
import Mathlib.Data.Prod.Lex

/-!
# Deterministic scheduling (`src/application/scheduler.rs`)

The scheduler takes the first of the candidates that nothing speaks against. A candidate
gains a point of priority for each day it has been ready, up to twenty.

Results:

* `compareCandidates_eq_lt_iff`: what the comparison looks at.
* `fair_scheduling`: the comparison is a total preorder, and the candidate that is
  selected does not depend on the order of the list.
-/

namespace Asf.Application

open Lib

variable {a b : Option DateTime}

/-- `SchedulingRejection` (lines 77-86). -/
inductive SchedulingRejection where
  | dependencyBlocked | staleSource | approvalMissing | budgetUnavailable | workerUnavailable
  | identityUnavailable | repositoryWipFull | circuitBreakerOpen
deriving DecidableEq

/-- `SchedulingCandidate` (lines 12-26). -/
structure SchedulingCandidate where
  (workItemId repositoryId : Uuid)
  normalizedPriority : UInt8
  readyAt : DateTime
  dueAt : Option DateTime
  (dependenciesReady sourceCurrent approvalsReady budgetAvailable workerAvailable : Bool)
  (identityAvailable repositoryWipAvailable breakerOpen : Bool)
deriving DecidableEq

namespace SchedulingCandidate

/-- `effective_priority` (lines 30-41). The age is cut to whole seconds and to
    whole days of them. -/
def effectivePriority (candidate : SchedulingCandidate) (now : DateTime) : ℕ :=
  let age := max (now.nanos - candidate.readyAt.nanos) 0
  let bonus := min (age / 1000000000 / 86400) 20
  min (min (candidate.normalizedPriority.toNat + bonus.toNat) 255) 120

/-- `rejection_reasons` (lines 44-73). -/
def rejectionReasons (candidate : SchedulingCandidate) : List SchedulingRejection :=
  [(!candidate.dependenciesReady, SchedulingRejection.dependencyBlocked),
    (!candidate.sourceCurrent, .staleSource), (!candidate.approvalsReady, .approvalMissing),
    (!candidate.budgetAvailable, .budgetUnavailable),
    (!candidate.workerAvailable, .workerUnavailable),
    (!candidate.identityAvailable, .identityUnavailable),
    (!candidate.repositoryWipAvailable, .repositoryWipFull),
    (candidate.breakerOpen, .circuitBreakerOpen)].filterMap
      fun check => if check.1 then some check.2 else none

end SchedulingCandidate

/-- `compare_due_date` (lines 149-155). -/
def compareDueDate : Option DateTime → Option DateTime → Ordering
  | some left, some right => compare left.nanos right.nanos
  | some _, none => .lt
  | none, some _ => .gt
  | none, none => .eq

/-- `compare_candidates` (lines 136-147). -/
def compareCandidates (left right : SchedulingCandidate) (now : DateTime) : Ordering :=
  (compare (right.effectivePriority now) (left.effectivePriority now)).then <|
    (compareDueDate left.dueAt right.dueAt).then <|
      (compare left.readyAt.nanos right.readyAt.nanos).then
        (compare left.workItemId right.workItemId)

/-- `CandidateEvaluation` (lines 95-100). -/
structure CandidateEvaluation where
  workItemId : Uuid
  effectivePriority : ℕ
  selected : Bool
  rejections : List SchedulingRejection
deriving DecidableEq

/-- `SchedulingDecision` (lines 89-92). -/
structure SchedulingDecision where
  selected : Option Uuid
  evaluations : List CandidateEvaluation
deriving DecidableEq

/-- The candidates nothing speaks against, in the order of the comparison
    (lines 113-117). -/
def eligible (candidates : List SchedulingCandidate) (now : DateTime) : List SchedulingCandidate :=
  (candidates.filter fun candidate => candidate.rejectionReasons.isEmpty).insertionSort
    fun left right => (compareCandidates left right now).isLE

/-- `DeterministicScheduler::select` (lines 108-133). -/
def select (candidates : List SchedulingCandidate) (now : DateTime) : SchedulingDecision :=
  let selected := (eligible candidates now).head?.map (·.workItemId)
  { selected
    evaluations := candidates.map fun candidate =>
      { workItemId := candidate.workItemId
        effectivePriority := candidate.effectivePriority now
        selected := selected == some candidate.workItemId
        rejections := candidate.rejectionReasons } }

/-! ## The comparison -/

/-- A due date before another one: none comes last. -/
def DueBefore : Option DateTime → Option DateTime → Prop
  | some left, some right => left.nanos < right.nanos
  | some _, none => True
  | none, _ => False

/-- A higher effective priority, then an earlier due date, then the time it became ready,
    then the smaller identifier. -/
def Precedes (now : DateTime) (left right : SchedulingCandidate) : Prop :=
  right.effectivePriority now < left.effectivePriority now
    ∨ left.effectivePriority now = right.effectivePriority now ∧
      (DueBefore left.dueAt right.dueAt
        ∨ left.dueAt = right.dueAt ∧
          (left.readyAt.nanos < right.readyAt.nanos
            ∨ left.readyAt = right.readyAt ∧ left.workItemId < right.workItemId))

/-- The due date as an instant, none after all of them. -/
def dueRank (dueAt : Option DateTime) : Lex (ℕ × ℤ) :=
  toLex (dueAt.elim (1, 0) fun due => (0, due.nanos))

/-- What is compared, as one value. -/
def rank (now : DateTime) (candidate : SchedulingCandidate) :
    Lex (ℕᵒᵈ × Lex (Lex (ℕ × ℤ) × Lex (ℤ × Uuid))) :=
  toLex (OrderDual.toDual (candidate.effectivePriority now), toLex (dueRank candidate.dueAt,
    toLex (candidate.readyAt.nanos, candidate.workItemId)))

section Comparison

variable {now : DateTime} {left right : SchedulingCandidate}

theorem DateTime.nanos_inj {a b : DateTime} : a.nanos = b.nanos ↔ a = b := by
  cases a
  cases b
  simp

theorem dueRank_inj : dueRank a = dueRank b ↔ a = b := by
  cases a <;> cases b <;> simp [dueRank, DateTime.nanos_inj]

theorem dueBefore_iff : DueBefore a b ↔ dueRank a < dueRank b := by
  cases a <;> cases b <;> simp [DueBefore, dueRank, Prod.Lex.toLex_lt_toLex]

theorem compareDueDate_eq_lt_iff : compareDueDate a b = .lt ↔ dueRank a < dueRank b := by
  cases a <;> cases b <;> simp [compareDueDate, dueRank, Int.compare_eq_lt, Prod.Lex.toLex_lt_toLex]

theorem compareDueDate_eq_eq_iff : compareDueDate a b = .eq ↔ dueRank a = dueRank b := by
  cases a <;> cases b <;> simp [compareDueDate, dueRank]

theorem precedes_iff : Precedes now left right ↔ rank now left < rank now right := by
  simp only [Precedes, rank, Prod.Lex.toLex_lt_toLex, OrderDual.toDual_lt_toDual,
    OrderDual.toDual_inj, dueBefore_iff, dueRank_inj, DateTime.nanos_inj]

/-- What the comparison looks at. -/
theorem compareCandidates_eq_lt_iff :
    compareCandidates left right now = .lt ↔ Precedes now left right := by
  simp only [precedes_iff, compareCandidates, Ordering.then_eq_lt, compare_lt_iff_lt,
    compare_eq_iff_eq, compareDueDate_eq_lt_iff, compareDueDate_eq_eq_iff, rank,
    Prod.Lex.toLex_lt_toLex, OrderDual.toDual_lt_toDual, OrderDual.toDual_inj]
  rw [@eq_comm ℕ (right.effectivePriority now)]

theorem compareCandidates_eq_eq_iff :
    compareCandidates left right now = .eq ↔ rank now left = rank now right := by
  simp only [compareCandidates, Ordering.then_eq_eq, compareDueDate_eq_eq_iff, rank,
    compare_eq_iff_eq, toLex_inj, Prod.mk.injEq, OrderDual.toDual_inj]
  rw [@eq_comm ℕ (right.effectivePriority now)]

theorem compareCandidates_isLE_iff :
    (compareCandidates left right now).isLE ↔ rank now left ≤ rank now right := by
  have hlt : compareCandidates left right now = .lt ↔ rank now left < rank now right :=
    compareCandidates_eq_lt_iff.trans precedes_iff
  have heq : compareCandidates left right now = .eq ↔ rank now left = rank now right :=
    compareCandidates_eq_eq_iff
  rw [le_iff_lt_or_eq, ← hlt, ← heq]
  cases compareCandidates left right now <;> simp

theorem compareCandidates_eq_gt_iff :
    compareCandidates left right now = .gt ↔ rank now right < rank now left := by
  rw [← not_le, ← compareCandidates_isLE_iff]
  cases compareCandidates left right now <;> simp

theorem compareCandidates_swap :
    compareCandidates right left now = (compareCandidates left right now).swap := by
  rcases lt_trichotomy (rank now left) (rank now right) with h | h | h
  · rw [compareCandidates_eq_gt_iff.mpr h, (compareCandidates_eq_lt_iff.trans precedes_iff).mpr h]
    rfl
  · rw [compareCandidates_eq_eq_iff.mpr h, compareCandidates_eq_eq_iff.mpr h.symm]
    rfl
  · rw [compareCandidates_eq_gt_iff.mpr h, (compareCandidates_eq_lt_iff.trans precedes_iff).mpr h]
    rfl

end Comparison

/-! ## The selection -/

variable {candidate : SchedulingCandidate}

section Selection

variable {now : DateTime} {candidates : List SchedulingCandidate}

instance : Std.Total fun left right : SchedulingCandidate =>
    ((compareCandidates left right now).isLE : Prop) :=
  ⟨fun left right => by
    simp only [compareCandidates_isLE_iff]
    exact le_total _ _⟩

instance : IsTrans SchedulingCandidate fun left right =>
    ((compareCandidates left right now).isLE : Prop) :=
  ⟨fun a b c => by
    simp only [compareCandidates_isLE_iff]
    exact le_trans⟩

theorem eligible_head (h : (eligible candidates now).head? = some candidate) :
    candidate ∈ candidates ∧ candidate.rejectionReasons = [] ∧ ∀ other ∈ candidates,
      other.rejectionReasons = [] → rank now candidate ≤ rank now other := by
  obtain ⟨hmem, hfirst⟩ := head?_insertionSort_eq_some h
  simp only [List.mem_filter, List.isEmpty_iff] at hmem hfirst
  exact ⟨hmem.1, hmem.2, fun other hother hfree =>
    compareCandidates_isLE_iff.mp (hfirst other ⟨hother, hfree⟩)⟩

theorem eligible_head_eq_none_iff : (eligible candidates now).head? = none ↔
    ∀ candidate ∈ candidates, candidate.rejectionReasons ≠ [] := by
  rw [eligible, head?_insertionSort_eq_none, List.filter_eq_nil_iff]
  simp

/-- Two lists with the same members have first candidates with the same identifier. -/
theorem selected_eq_of_perm {permuted : List SchedulingCandidate}
    (hperm : candidates.Perm permuted) :
    (select permuted now).selected = (select candidates now).selected := by
  simp only [select]
  cases hleft : (eligible candidates now).head? with
  | none =>
    have hright : (eligible permuted now).head? = none := by
      rw [eligible_head_eq_none_iff] at hleft ⊢
      exact fun candidate hmem => hleft candidate (hperm.mem_iff.mpr hmem)
    rw [hright]
  | some first =>
    cases hright : (eligible permuted now).head? with
    | none =>
      obtain ⟨hmem, hfree, -⟩ := eligible_head hleft
      exact absurd hfree (eligible_head_eq_none_iff.mp hright first (hperm.mem_iff.mp hmem))
    | some second =>
      obtain ⟨hmem, hfree, hfirst⟩ := eligible_head hleft
      obtain ⟨hmem', hfree', hsecond⟩ := eligible_head hright
      have htie : rank now second = rank now first := le_antisymm
        (hsecond first (hperm.mem_iff.mp hmem) hfree)
        (hfirst second (hperm.mem_iff.mpr hmem') hfree')
      simp only [rank, toLex_inj, Prod.mk.injEq] at htie
      rw [Option.map_some, Option.map_some, htie.2.2.2]

/-- The evaluations of one identifier are those of one candidate. -/
theorem filter_evaluations (hnodup : (candidates.map (·.workItemId)).Nodup)
    (hmem : candidate ∈ candidates)
    (hselected : (select candidates now).selected = some candidate.workItemId) :
    (select candidates now).evaluations.filter (·.selected) =
      [⟨candidate.workItemId, candidate.effectivePriority now, true,
        candidate.rejectionReasons⟩] := by
  have hmarked : candidates.filter (fun other => some candidate.workItemId == some other.workItemId)
      = [candidate] := by
    rw [← filter_key_eq_singleton hnodup hmem]
    exact List.filter_congr fun _ _ => by simp [eq_comm]
  have hselect : (eligible candidates now).head?.map (·.workItemId) = some candidate.workItemId :=
    hselected
  rw [select, hselect, List.filter_map]
  show (candidates.filter fun other => some candidate.workItemId == some other.workItemId).map _ = _
  rw [hmarked]
  simp

end Selection

/-- **Fair deterministic scheduling.** -/
theorem fair_scheduling (now : DateTime) :
    (∀ a b c, compareCandidates a a now = .eq
        ∧ compareCandidates b a now = (compareCandidates a b now).swap
        ∧ ((compareCandidates a b now).isLE → (compareCandidates b c now).isLE →
          (compareCandidates a c now).isLE)
        ∧ (compareCandidates a b now = .eq → a.workItemId = b.workItemId)
        ∧ (compareCandidates a b now = .lt ↔ Precedes now a b))
      ∧ ∀ candidates,
        ((select candidates now).selected.isSome
          ↔ ∃ candidate ∈ candidates, candidate.rejectionReasons = [])
        ∧ (∀ id, (select candidates now).selected = some id →
          ∃ candidate ∈ candidates, candidate.workItemId = id ∧ candidate.rejectionReasons = []
            ∧ ∀ other ∈ candidates, other.rejectionReasons = [] → ¬ Precedes now other candidate)
        ∧ (∀ permuted, candidates.Perm permuted →
          (select permuted now).selected = (select candidates now).selected)
        ∧ ((candidates.map (·.workItemId)).Nodup →
          ((select candidates now).selected = none ∧
              (select candidates now).evaluations.filter (·.selected) = [])
            ∨ ∃ evaluation, (select candidates now).selected = some evaluation.workItemId ∧
              (select candidates now).evaluations.filter (·.selected) = [evaluation] ∧
              evaluation.rejections = []) := by
  refine ⟨fun a b c => ⟨?_, ?_, ?_, ?_, compareCandidates_eq_lt_iff⟩, fun candidates =>
    ⟨?_, ?_, fun permuted hperm => selected_eq_of_perm hperm, fun hnodup => ?_⟩⟩
  · exact compareCandidates_eq_eq_iff.mpr rfl
  · exact compareCandidates_swap
  · simp only [compareCandidates_isLE_iff]
    exact le_trans
  · intro htie
    simp only [compareCandidates_eq_eq_iff, rank, toLex_inj, Prod.mk.injEq] at htie
    exact htie.2.2.2
  · rw [← not_iff_not, Bool.not_eq_true, Option.isSome_eq_false_iff, Option.isNone_iff_eq_none]
    show (eligible candidates now).head?.map _ = none ↔ _
    rw [Option.map_eq_none_iff, eligible_head_eq_none_iff]
    simp
  · intro id hid
    obtain ⟨candidate, hhead, rfl⟩ := Option.map_eq_some_iff.mp hid
    obtain ⟨hmem, hfree, hfirst⟩ := eligible_head hhead
    refine ⟨candidate, hmem, rfl, hfree, fun other hother hotherFree hprecedes => ?_⟩
    exact absurd (precedes_iff.mp hprecedes) (hfirst other hother hotherFree).not_gt
  · cases hhead : (eligible candidates now).head? with
    | none =>
      have hnone : (select candidates now).selected = none := by
        simp [select, hhead]
      refine .inl ⟨hnone, ?_⟩
      simp [select, hhead]
    | some candidate =>
      obtain ⟨hmem, hfree, -⟩ := eligible_head hhead
      have hselected : (select candidates now).selected = some candidate.workItemId := by
        simp [select, hhead]
      exact .inr ⟨_, hselected, filter_evaluations hnodup hmem hselected, hfree⟩

/-- A candidate nothing speaks against. -/
def sampleCandidate (id : ℕ) (dueAt : Option DateTime) : SchedulingCandidate :=
  ⟨.ofNat id, .ofNat 9, 50, ⟨0⟩, dueAt, true, true, true, true, true, true, true, false⟩

/-- The candidate with a due date is taken, wherever it stands. -/
theorem fair_scheduling_sample :
    (select [sampleCandidate 2 none, sampleCandidate 1 (some ⟨5⟩)] ⟨0⟩).selected = some (.ofNat 1)
      ∧ ∃ evaluation, (select [sampleCandidate 1 (some ⟨5⟩), sampleCandidate 2 none]
        ⟨0⟩).evaluations.filter (·.selected) = [evaluation] ∧ evaluation.rejections = [] := by
  have hselected : (select [sampleCandidate 1 (some ⟨5⟩), sampleCandidate 2 none] ⟨0⟩).selected
      = some (.ofNat 1) := by decide
  obtain ⟨-, -, hperm, hmarked⟩ :=
    (fair_scheduling ⟨0⟩).2 [sampleCandidate 1 (some ⟨5⟩), sampleCandidate 2 none]
  refine ⟨(hperm _ (List.Perm.swap _ _ _)).trans hselected, ?_⟩
  rcases hmarked (by decide) with ⟨hnone, -⟩ | ⟨evaluation, -, hfilter, hfree⟩
  · rw [hselected] at hnone
    cases hnone
  · exact ⟨evaluation, hfilter, hfree⟩

end Asf.Application
