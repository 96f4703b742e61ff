import Asf.Lib.Rollup
import Asf.Forge.Observation

/-!
# CI records of a commit (`src/adapters/github.rs`)

Commit statuses and check runs are rolled up into one observation per context name.
The loop merges the states of a name by rank, and keeps the commit of the record
read last.

Results:

* `lookup_normalizeCi_iff`: a context is successful on a commit exactly if it
  occurs, all its records are successes and the one read last ran on that commit.
* `stale_runs_excluded_iff`: evidence for a candidate excludes results of other
  commits exactly if none of them is followed by another run of its name.
-/

namespace Asf.Forge

open Lib

/-! ## What GitHub returns -/

/-- `GitHubCommitStatus` (lines 644-648). -/
structure GitHubCommitStatus where
  (context state : String)
deriving DecidableEq

/-- `GitHubCheckRun` (lines 656-662). -/
structure GitHubCheckRun where
  (name headSha status : String)
  conclusion : Option String
deriving DecidableEq

/-- `invalid_provider_response` (lines 485-489). -/
def invalidProviderResponse : ForgeGatewayError :=
  .invalidObservation "GitHub returned an incomplete, inconsistent, or oversized response"

/-- `normalize_commit_status` (lines 569-576). -/
def normalizeCommitStatus (state : String) : ForgeResult RemoteCiState :=
  if state = "pending" then .ok .inProgress
  else if state = "success" then .ok .success
  else if state = "failure" ∨ state = "error" then .ok .failure
  else .error invalidProviderResponse

/-- The match on the conclusion of a completed run (lines 582-591). -/
def normalizeConclusion (conclusion : Option String) : ForgeResult RemoteCiState :=
  if conclusion = some "success" then .ok .success
  else if conclusion = some "cancelled" then .ok .cancelled
  else if conclusion = some "skipped" then .ok .skipped
  else if conclusion = some "neutral" then .ok .neutral
  else if conclusion = some "failure" ∨ conclusion = some "timed_out"
      ∨ conclusion = some "action_required" ∨ conclusion = some "startup_failure"
      ∨ conclusion = some "stale" then .ok .failure
  else .error invalidProviderResponse

/-- `normalize_check_run` (lines 578-594). -/
def normalizeCheckRun (status : String) (conclusion : Option String) : ForgeResult RemoteCiState :=
  if status = "queued" ∨ status = "pending" ∨ status = "waiting" ∨ status = "requested" then
    .ok .queued
  else if status = "in_progress" then .ok .inProgress
  else if status = "completed" then normalizeConclusion conclusion
  else .error invalidProviderResponse

/-! ## The rollup -/

/-- `ci_state_rank` (lines 558-567). -/
def ciStateRank : RemoteCiState → ℕ
  | .success => 0
  | .queued | .inProgress => 1
  | .neutral => 2
  | .skipped => 3
  | .cancelled => 4
  | .failure => 5

/-- `conservative_ci_state` (lines 550-556). -/
def conservativeCiState (left right : RemoteCiState) : RemoteCiState :=
  if ciStateRank left ≥ ciStateRank right then left else right

/-- `insert_ci` (lines 532-548). -/
def insertCi (observations : CiMap) (name : String) (candidate : RemoteCiObservation) : CiMap :=
  match observations.lookup name with
  | none => observations.insert name candidate
  | some current =>
    let candidateSha :=
      if current.candidateSha ≠ candidate.candidateSha then candidate.candidateSha
      else current.candidateSha
    observations.insert name ⟨candidateSha, conservativeCiState current.state candidate.state⟩

/-- The observation the loop makes of a commit status (lines 507-517). -/
def statusRecord (candidateSha : String) (status : GitHubCommitStatus) :
    ForgeResult (String × RemoteCiObservation) := do
  refuseIf (isBlank status.context) invalidProviderResponse
  let state ← normalizeCommitStatus status.state
  .ok (status.context, ⟨candidateSha, state⟩)

/-- The observation the loop makes of a check run (lines 520-527). -/
def checkRecord (check : GitHubCheckRun) : ForgeResult (String × RemoteCiObservation) := do
  refuseIf (isBlank check.name) invalidProviderResponse
  let state ← normalizeCheckRun check.status check.conclusion
  .ok (check.name, ⟨check.headSha, state⟩)

/-- `normalize_ci` (lines 500-530). -/
def normalizeCi (candidateSha : String) (statuses : List GitHubCommitStatus)
    (checks : List GitHubCheckRun) : ForgeResult CiMap := do
  let normalized ← statuses.foldlM
    (fun normalized status => do
      let record ← statusRecord candidateSha status
      .ok (insertCi normalized record.1 record.2)) ∅
  checks.foldlM
    (fun normalized check => do
      let record ← checkRecord check
      .ok (insertCi normalized record.1 record.2)) normalized

/-! ## What the rollup keeps -/

/-- What `insert_ci` leaves of two records of a name. -/
def mergeCi (current candidate : RemoteCiObservation) : RemoteCiObservation :=
  ⟨candidate.candidateSha, conservativeCiState current.state candidate.state⟩

/-- The comparison of the commits changes nothing: the later one stays. -/
theorem insertCi_eq_mergeAt (observations : CiMap) (record : String × RemoteCiObservation) :
    insertCi observations record.1 record.2 = mergeAt mergeCi observations record := by
  unfold insertCi mergeAt mergeCi
  cases observations.lookup record.1 with
  | none => rfl
  | some current =>
    by_cases h : current.candidateSha = record.2.candidateSha <;> simp [h]

theorem normalizeCi_eq_ok_iff {candidateSha : String} {statuses : List GitHubCommitStatus}
    {checks : List GitHubCheckRun} {ci : CiMap} :
    normalizeCi candidateSha statuses checks = .ok ci
      ↔ ∃ fromStatuses fromChecks,
        List.Forall₂ (fun status record => statusRecord candidateSha status = .ok record)
          statuses fromStatuses
        ∧ List.Forall₂ (fun check record => checkRecord check = .ok record) checks fromChecks
        ∧ rollup mergeCi (fromStatuses ++ fromChecks) = ci := by
  unfold normalizeCi
  simp only [insertCi_eq_mergeAt, bind_eq_ok_iff, foldlM_read_eq_ok_iff, rollup,
    List.foldl_append, exists_exists_and_eq_and, exists_and_left]

theorem record_eq_ok_iff {name sha : String} {normalized : ForgeResult RemoteCiState}
    {record : String × RemoteCiObservation} :
    (do refuseIf (isBlank name) invalidProviderResponse
        let state ← normalized
        .ok (name, ⟨sha, state⟩)) = Except.ok record
      ↔ isBlank name = false ∧ record.1 = name ∧ record.2.candidateSha = sha
        ∧ normalized = .ok record.2.state := by
  obtain ⟨recorded, candidateSha, state⟩ := record
  simp only [bind_eq_ok_iff, exists_unit_iff, refuseIf_eq_ok_iff, Except.ok.injEq,
    Prod.mk.injEq, RemoteCiObservation.mk.injEq]
  constructor
  · rintro ⟨hname, _, hstate, rfl, rfl, rfl⟩
    exact ⟨hname, rfl, rfl, hstate⟩
  · rintro ⟨hname, rfl, rfl, hstate⟩
    exact ⟨hname, _, hstate, rfl, rfl, rfl⟩

theorem normalizeCommitStatus_eq_success_iff {state : String} :
    normalizeCommitStatus state = .ok .success ↔ state = "success" := by
  unfold normalizeCommitStatus
  split_ifs with h₁ h₂ h₃ <;> simp_all

theorem normalizeCheckRun_eq_success_iff {status : String} {conclusion : Option String} :
    normalizeCheckRun status conclusion = .ok .success
      ↔ status = "completed" ∧ conclusion = some "success" := by
  unfold normalizeCheckRun normalizeConclusion
  by_cases hcompleted : status = "completed"
  · subst hcompleted
    split_ifs <;> simp_all
  · split_ifs <;> simp_all

/-- A success merged into a state leaves it, and only successes merge into one. -/
theorem conservativeCiState_eq_success_iff {left right : RemoteCiState} :
    conservativeCiState left right = .success ↔ left = .success ∧ right = .success := by
  cases left <;> cases right <;> decide

/-- The merge of a name's observations: the commit of the last one, and success only
    if all are. -/
theorem mergeAll_mergeCi_concat (observations : List RemoteCiObservation)
    (last : RemoteCiObservation) :
    ∃ state, mergeAll mergeCi (observations ++ [last]) = some ⟨last.candidateSha, state⟩
      ∧ (state = .success ↔ ∀ o ∈ observations ++ [last], o.state = .success) := by
  induction observations using List.reverseRecOn generalizing last with
  | nil => exact ⟨last.state, rfl, by simp⟩
  | append_singleton observations previous ih =>
    obtain ⟨state, hmerge, hstate⟩ := ih previous
    refine ⟨conservativeCiState state last.state, ?_, ?_⟩
    · rw [mergeAll_concat, hmerge]
      rfl
    · rw [conservativeCiState_eq_success_iff, hstate]
      simp only [List.mem_append, List.mem_singleton, or_imp, forall_and, forall_eq]

/-- The commit and the state of a name whose observations were merged. -/
theorem mergeAll_mergeCi_eq_success_iff {observations : List RemoteCiObservation}
    {candidate : String} :
    mergeAll mergeCi observations = some ⟨candidate, .success⟩
      ↔ (∃ last, observations.getLast? = some last ∧ last.candidateSha = candidate)
        ∧ ∀ o ∈ observations, o.state = .success := by
  cases observations using List.reverseRecOn with
  | nil => simp [mergeAll]
  | append_singleton observations last =>
    obtain ⟨state, hmerge, hstate⟩ := mergeAll_mergeCi_concat observations last
    rw [hmerge, ← hstate]
    simp

/-! ## One context -/

section Context

variable {candidate context : String} {statuses : List GitHubCommitStatus}
  {checks : List GitHubCheckRun} {ci : CiMap}

/-- The check runs of a name, in the order they were returned. -/
def runsOf (checks : List GitHubCheckRun) (context : String) : List GitHubCheckRun :=
  checks.filter fun check => check.name = context

/-- The context is reported, and every report is a success. -/
structure Succeeded (statuses : List GitHubCommitStatus) (checks : List GitHubCheckRun)
    (context : String) : Prop where
  occurs : (∃ status ∈ statuses, status.context = context) ∨ ∃ check ∈ checks, check.name = context
  statuses_succeeded : ∀ status ∈ statuses, status.context = context → status.state = "success"
  checks_succeeded : ∀ check ∈ checks, check.name = context →
    check.status = "completed" ∧ check.conclusion = some "success"

theorem succeeded_iff :
    Succeeded statuses checks context
      ↔ (statuses.filter (fun status => status.context = context) ≠ []
          ∨ runsOf checks context ≠ [])
        ∧ (∀ status ∈ statuses.filter (fun status => status.context = context),
          status.state = "success")
        ∧ ∀ check ∈ runsOf checks context,
          check.status = "completed" ∧ check.conclusion = some "success" := by
  have hstatuses : (statuses.filter (fun status => status.context = context) ≠ [])
      ↔ ∃ status ∈ statuses, status.context = context := by
    simp
  have hchecks : runsOf checks context ≠ [] ↔ ∃ check ∈ checks, check.name = context := by
    simp [runsOf]
  rw [hstatuses, hchecks]
  simp only [runsOf, List.mem_filter, decide_eq_true_eq, and_imp]
  exact ⟨fun h => ⟨h.occurs, h.statuses_succeeded, h.checks_succeeded⟩,
    fun ⟨hoccurs, hstatuses, hchecks⟩ => ⟨hoccurs, hstatuses, hchecks⟩⟩

section

variable (h : normalizeCi candidate statuses checks = .ok ci)

include h

/-- The records of a context's statuses and check runs, in the order of the loops. -/
theorem normalizeCi_records (context : String) :
    ∃ fromStatuses fromChecks : List RemoteCiObservation,
      ci.lookup context = mergeAll mergeCi (fromStatuses ++ fromChecks)
      ∧ List.Forall₂
        (fun (status : GitHubCommitStatus) o =>
          o.candidateSha = candidate ∧ normalizeCommitStatus status.state = .ok o.state)
        (statuses.filter fun status => status.context = context) fromStatuses
      ∧ List.Forall₂
        (fun (check : GitHubCheckRun) o => o.candidateSha = check.headSha
          ∧ normalizeCheckRun check.status check.conclusion = .ok o.state)
        (runsOf checks context) fromChecks := by
  obtain ⟨fromStatuses, fromChecks, hstatuses, hchecks, rfl⟩ := normalizeCi_eq_ok_iff.mp h
  refine ⟨valuesAt context fromStatuses, valuesAt context fromChecks, ?_, ?_, ?_⟩
  · rw [lookup_rollup, valuesAt_append]
  · have hname : ∀ status record, statusRecord candidate status = .ok record →
        record.1 = status.context := fun _ _ hrecord => (record_eq_ok_iff.mp hrecord).2.1
    exact (forall₂_valuesAt hname hstatuses context).imp
      fun _ _ hrecord => (record_eq_ok_iff.mp hrecord).2.2
  · have hname : ∀ check record, checkRecord check = .ok record → record.1 = check.name :=
      fun _ _ hrecord => (record_eq_ok_iff.mp hrecord).2.1
    exact (forall₂_valuesAt hname hchecks context).imp
      fun _ _ hrecord => (record_eq_ok_iff.mp hrecord).2.2

/-- What the map says of a context: it succeeded on the head exactly if all its
    records are successes and the check run read last ran there. -/
theorem lookup_normalizeCi_iff :
    ci.lookup context = some ⟨candidate, .success⟩
      ↔ Succeeded statuses checks context
        ∧ ∀ last, (runsOf checks context).getLast? = some last → last.headSha = candidate := by
  obtain ⟨fromStatuses, fromChecks, hlookup, hstatuses, hchecks⟩ := normalizeCi_records h context
  have hstatusStates : (∀ status ∈ statuses.filter (fun status => status.context = context),
      status.state = "success") ↔ ∀ o ∈ fromStatuses, o.state = .success := by
    refine forall_mem_iff_of_forall₂ hstatuses fun status o ⟨_, hstate⟩ => ?_
    rw [← normalizeCommitStatus_eq_success_iff, hstate, Except.ok.injEq]
  have hcheckStates : (∀ check ∈ runsOf checks context,
      check.status = "completed" ∧ check.conclusion = some "success")
        ↔ ∀ o ∈ fromChecks, o.state = .success := by
    refine forall_mem_iff_of_forall₂ hchecks fun check o ⟨_, hstate⟩ => ?_
    rw [← normalizeCheckRun_eq_success_iff, hstate, Except.ok.injEq]
  rw [hlookup, mergeAll_mergeCi_eq_success_iff, succeeded_iff, hstatusStates, hcheckStates,
    List.getLast?_append, List.forall_mem_append]
  -- The check runs come after the statuses, so the record read last is one of them if
  -- the context has any.
  obtain ⟨hnone, hnone'⟩ | ⟨check, o, hlast, hlast', hsha, -⟩ := getLast?_of_forall₂ hchecks
  · rw [List.getLast?_eq_none_iff] at hnone
    rw [hnone', hnone]
    obtain ⟨hempty, hempty'⟩ | ⟨status, o, hlast, hlast', hsha, -⟩ := getLast?_of_forall₂ hstatuses
    · rw [List.getLast?_eq_none_iff] at hempty
      simp [hempty, hempty']
    · have hsome : statuses.filter (fun status => status.context = context) ≠ [] := by
        intro hnil
        simp [hnil] at hlast
      simp [hlast', hsha, hsome]
  · have hsome : runsOf checks context ≠ [] := by
      intro hnil
      simp [hnil] at hlast
    rw [hlast', hlast]
    simp [hsha, hsome, and_comm]

end

/-- The context is reported, and every report of it is a success that ran on the
    candidate; a commit status is one of the candidate. -/
structure CurrentOn (candidate : String) (statuses : List GitHubCommitStatus)
    (checks : List GitHubCheckRun) (context : String) : Prop
    extends Succeeded statuses checks context where
  exact : ∀ check ∈ checks, check.name = context → check.headSha = candidate

theorem currentOn_iff (hsucceeded : Succeeded statuses checks context)
    (hlast : ∀ last, (runsOf checks context).getLast? = some last → last.headSha = candidate) :
    CurrentOn candidate statuses checks context
      ↔ ∀ check ∈ (runsOf checks context).dropLast, check.headSha = candidate := by
  have hexact : (∀ check ∈ checks, check.name = context → check.headSha = candidate)
      ↔ ∀ check ∈ runsOf checks context, check.headSha = candidate := by
    simp [runsOf]
  constructor
  · intro h check hcheck
    exact hexact.mp h.exact check (List.mem_of_mem_dropLast hcheck)
  · intro h
    refine { hsucceeded with exact := hexact.mpr fun check hcheck => ?_ }
    have hne : runsOf checks context ≠ [] := List.ne_nil_of_mem hcheck
    rw [← List.dropLast_concat_getLast hne, List.mem_append, List.mem_singleton] at hcheck
    obtain hcheck | rfl := hcheck
    · exact h check hcheck
    · exact hlast _ (List.getLast?_eq_some_getLast hne)

end Context

/-! ## Evidence for a candidate -/

/-- Evidence made of the records of a head is about results of that head alone
    exactly if, in each required context, every check run that is followed by another
    one ran there: of the commits the records name, only the last one is compared. -/
theorem stale_runs_excluded_iff (parseUrl : String → Except String Authority.Url)
    (statuses : List GitHubCommitStatus) (checks : List GitHubCheckRun)
    (observation : PullRequestObservation) (request : ObservePullRequestRequest)
    (hci : normalizeCi request.expectedCandidateSha statuses checks = .ok observation.ci)
    (evidence : Evidence.PullRequestEvidence)
    (hevidence : observation.exactCandidateEvidence parseUrl request = .ok evidence) :
    (∀ context ∈ request.requiredCiContexts,
        CurrentOn request.expectedCandidateSha statuses checks context)
      ↔ ∀ context ∈ request.requiredCiContexts,
        ∀ check ∈ (runsOf checks context).dropLast,
          check.headSha = request.expectedCandidateSha := by
  obtain ⟨-, hlookup⟩ := exactCandidateEvidence_lookup hevidence
  refine forall₂_congr fun context hcontext => ?_
  obtain ⟨hsucceeded, hlast⟩ := (lookup_normalizeCi_iff hci).mp (hlookup context hcontext)
  exact currentOn_iff hsucceeded hlast

namespace Sample

/-- `Url::parse` on the address of the pull request. -/
def parseUrl (value : String) : Except String Authority.Url :=
  if value = "https://github.com/acme/app/pull/7" then
    .ok ⟨"https", some "github.com", "", none⟩
  else .error "relative URL without a base"

def request : ObservePullRequestRequest where
  schema := "asf.observe-pull-request.v1"
  pullRequest := ⟨"acme/app", 7⟩
  expectedBaseSha := "base"
  expectedCandidateSha := "candidate"
  requiredCiContexts := {"build"}

/-- A finished run of the required context. -/
def run (headSha : String) : GitHubCheckRun := ⟨"build", headSha, "completed", some "success"⟩

def observation : PullRequestObservation where
  schema := "asf.pull-request-observation.v1"
  pullRequest := ⟨"acme/app", 7⟩
  url := "https://github.com/acme/app/pull/7"
  state := .opened
  baseSha := "base"
  headSha := "candidate"
  mergeSha := none
  ci := (∅ : CiMap).insert "build" ⟨"candidate", .success⟩
  providerRevision := "github:pull:7"
  observedAt := ⟨0⟩

def evidence : Evidence.PullRequestEvidence where
  repository := "acme/app"
  number := 7
  url := "https://github.com/acme/app/pull/7"
  baseSha := "base"
  headSha := "candidate"
  requiredCiContexts := {"build"}
  successfulCiContexts := {"build"}

theorem evidence_made : observation.exactCandidateEvidence parseUrl request = .ok evidence := by
  rfl

end Sample

section

open Sample

/-- Two runs of the context, both on the candidate. -/
theorem stale_runs_excluded_sample :
    "build" ∈ request.requiredCiContexts
      ∧ CurrentOn "candidate" [] [run "candidate", run "candidate"] "build" := by
  have hcurrent := (stale_runs_excluded_iff parseUrl [] [run "candidate", run "candidate"]
    observation request rfl evidence evidence_made).mpr (by decide)
  exact ⟨by decide, hcurrent "build" (by decide)⟩

/-- A run that succeeded on another commit is followed by one on the candidate, and
    the evidence is made of both. -/
theorem stale_run_accepted :
    normalizeCi "candidate" [] [run "other", run "candidate"] = .ok observation.ci
      ∧ request.expectedCandidateSha = "candidate"
      ∧ observation.exactCandidateEvidence parseUrl request = .ok evidence
      ∧ "build" ∈ request.requiredCiContexts
      ∧ ¬ CurrentOn "candidate" [] [run "other", run "candidate"] "build" := by
  refine ⟨rfl, rfl, evidence_made, by decide, fun h => ?_⟩
  have hother : (run "other").headSha = "candidate" := h.exact (run "other") (by simp) rfl
  exact absurd hother (by decide)

end

end Asf.Forge
