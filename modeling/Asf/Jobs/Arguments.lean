import Asf.Jobs.Enqueue
import Mathlib.Computability.Language

/-!
# Activity contract ids and lease durations

What the queue accepts for two of its arguments, with the options of the reactor that
claims with them (`src/runtime/reactor.rs`).

Results:

* `isValidActivityContractId_iff`: the scanner of the ids accepts a regular language.
* `lease_outlives_heartbeat_iff`: a claimed job can be renewed before its lease ends
  exactly if the lease has two milliseconds.
-/

namespace Asf.Jobs

open KStar (kstar)

/-! ## The grammar of activity contract ids -/

/-- The words of one byte of a class. -/
def oneByte (ofClass : UInt8 → Prop) : Language UInt8 :=
  {word | ∃ byte, ofClass byte ∧ word = [byte]}

/-- `[a-z0-9]`. -/
def alphanumeric : Language UInt8 := oneByte fun b => 97 ≤ b ∧ b ≤ 122 ∨ 48 ≤ b ∧ b ≤ 57

/-- `[-./]`. -/
def separator : Language UInt8 := oneByte fun b => b = 46 ∨ b = 47 ∨ b = 45

/-- `[a-z0-9]*([-./][a-z0-9]+)*`. -/
def afterAlphanumeric : Language UInt8 :=
  kstar alphanumeric * kstar (separator * (alphanumeric * kstar alphanumeric))

section

variable {ofClass : UInt8 → Prop} {language : Language UInt8} {byte : UInt8} {rest : List UInt8}

theorem nil_notMem_oneByte_mul : [] ∉ oneByte ofClass * language := by
  rintro ⟨_, ⟨_, -, rfl⟩, _, -, h⟩
  cases h

theorem cons_mem_oneByte_mul :
    byte :: rest ∈ oneByte ofClass * language ↔ ofClass byte ∧ rest ∈ language := by
  constructor
  · rintro ⟨_, ⟨_, hclass, rfl⟩, _, hrest, h⟩
    cases h
    exact ⟨hclass, hrest⟩
  · rintro ⟨hclass, hrest⟩
    exact ⟨[byte], ⟨byte, hclass, rfl⟩, rest, hrest, rfl⟩

end

/-- Each star is unfolded once. -/
theorem afterAlphanumeric_eq :
    afterAlphanumeric
      = 1 + separator * (alphanumeric * afterAlphanumeric) + alphanumeric * afterAlphanumeric := by
  have hstar (l m : Language UInt8) : kstar l * m = m + l * (kstar l * m) := by
    nth_rewrite 1 [← Language.one_add_self_mul_kstar_eq_kstar]
    rw [add_mul, one_mul, mul_assoc]
  nth_rewrite 1 [afterAlphanumeric, hstar, ← Language.one_add_self_mul_kstar_eq_kstar]
  simp only [afterAlphanumeric, mul_assoc]

/-- The flag of the scanner tells which words may follow. -/
theorem contractIdScan_iff (word : List UInt8) :
    (contractIdScan true word ↔ word ∈ alphanumeric * afterAlphanumeric)
      ∧ (contractIdScan false word ↔ word ∈ afterAlphanumeric) := by
  induction word with
  | nil =>
    rw [afterAlphanumeric_eq]
    simp [contractIdScan, alphanumeric, nil_notMem_oneByte_mul, Language.mem_add, Language.mem_one]
  | cons byte rest ih =>
    nth_rewrite 2 [afterAlphanumeric_eq]
    simp only [contractIdScan, Language.mem_add, Language.mem_one, alphanumeric, separator,
      cons_mem_oneByte_mul] at ih ⊢
    rw [← ih.1, ← ih.2]
    grind

/-- The ids are the words of `[a-z0-9]+([-./][a-z0-9]+)*` of at most 128 bytes. -/
theorem isValidActivityContractId_iff (candidate : String) :
    isValidActivityContractId candidate
      ↔ (bytes candidate).length ≤ 128
        ∧ bytes candidate ∈ alphanumeric * kstar alphanumeric
          * kstar (separator * (alphanumeric * kstar alphanumeric)) := by
  rw [mul_assoc, ← afterAlphanumeric, ← (contractIdScan_iff (bytes candidate)).1,
    isValidActivityContractId]
  by_cases hempty : candidate.isEmpty
  · obtain rfl := String.isEmpty_iff.mp hempty
    simp [bytes, contractIdScan]
  · simp [hempty]

/-! ## Leases and heartbeats -/

/-- `ReactorOptions` (lines 1174-1180). -/
structure ReactorOptions where
  leaseOwner : String
  (pollInterval leaseDuration maxErrorBackoff : Duration)
  claimBatchSize : ℕ

namespace ReactorOptions

variable (options : ReactorOptions)

/-- `ReactorOptions::validate` (lines 1183-1215). -/
def validate : Result Unit := do
  failIf (isBlank options.leaseOwner) (.validation "reactor lease owner must be non-empty")
  failIf (options.pollInterval.nanos = 0) (.validation "reactor poll interval must be positive")
  failIf (options.leaseDuration.nanos ≤ options.pollInterval.nanos)
    (.validation "reactor lease duration must exceed its poll interval")
  failIf (options.leaseDuration.nanos > maxJobLeaseDuration.nanos)
    (.validation "reactor lease duration cannot exceed 24 hours")
  failIf (options.maxErrorBackoff.nanos < options.pollInterval.nanos)
    (.validation "reactor maximum error backoff cannot be shorter than its poll interval")
  failIf (¬ (1 ≤ options.claimBatchSize ∧ options.claimBatchSize ≤ 1000))
    (.validation "reactor claim batch size must be in 1..=1000")

/-- `heartbeat_period` of `execute_claimed_job` (line 1541). -/
def heartbeatPeriod : Duration :=
  ⟨max (options.leaseDuration.nanos / 3) 1000000⟩

/-- What a claim grants at `now`: the lease of the job ends later, and later than the
    first heartbeat. -/
def Outlives (now : Timestamptz) (job : ClaimedWorkflowJob) : Prop :=
  (DateTime.decode now).nanos < job.leaseExpiresAt.nanos
    ∧ (DateTime.decode now).nanos + options.heartbeatPeriod.nanos < job.leaseExpiresAt.nanos

/-- The lease is cut to milliseconds, of which the heartbeat takes at least one. -/
theorem lease_outlives_heartbeat_iff (options : ReactorOptions) (now : Timestamptz)
    (locked : Uuid → Bool) (verdict : Option String) (tenantId : Uuid) (db : Db)
    (claimed : List ClaimedWorkflowJob)
    (h : (claimJobs now locked verdict tenantId options.leaseOwner options.claimBatchSize
      options.leaseDuration db).2 = .ok claimed) (job : ClaimedWorkflowJob) (hjob : job ∈ claimed) :
    options.Outlives now job ↔ 2000000 ≤ options.leaseDuration.nanos := by
  obtain ⟨e, hr⟩ | ⟨milliseconds, ids, db', hlease, -, -, hr⟩ := claimJobs_cases now verdict db
    locked tenantId options.leaseOwner options.claimBatchSize options.leaseDuration
  · simp [hr] at h
  · rw [hr] at h
    obtain rfl := Except.ok.inj h
    obtain ⟨row, -, rfl⟩ := List.mem_map.mp hjob
    rw [leaseMilliseconds] at hlease
    split_ifs at hlease
    obtain rfl := Except.ok.inj hlease
    simp only [Outlives, heartbeatPeriod, claimReceipt, DateTime.decode, Duration.asMillis]
    omega

/-- Options with a lease of that many nanoseconds. -/
def leasing (nanos : ℕ) : ReactorOptions := ⟨"worker", ⟨1⟩, ⟨nanos⟩, ⟨1⟩, 1⟩

/-- The claim of an enqueued job with such options. -/
def claim (nanos : ℕ) : Result (List ClaimedWorkflowJob) :=
  (claimJobs 1 (fun _ => false) none (.ofNat 2) "worker" 1 ⟨nanos⟩
    (ledger.next Sample.empty Sample.enqueue).db).2

theorem lease_outlives_heartbeat_two_milliseconds :
    (leasing 2000000).validate = .ok ()
      ∧ ∃ job, claim 2000000 = .ok [job] ∧ (leasing 2000000).Outlives 1 job := by
  have hclaim : claim 2000000 = .ok [claimReceipt "worker" 2 1 (insertedJob 1 Sample.job)] := by
    decide +kernel
  exact ⟨by decide +kernel, _, hclaim, (lease_outlives_heartbeat_iff (leasing 2000000) 1 _ _ _ _ _
    hclaim _ (List.mem_singleton_self _)).mpr le_rfl⟩

/-- The options are accepted and the lease ends when it is granted. -/
theorem lease_over_when_granted :
    (leasing 2).validate = .ok () ∧ (leasing 2).heartbeatPeriod = ⟨1000000⟩
      ∧ claim 2 = .ok [claimReceipt "worker" 0 1 (insertedJob 1 Sample.job)]
      ∧ (claimReceipt "worker" 0 1 (insertedJob 1 Sample.job)).leaseExpiresAt = .decode 1 := by
  decide +kernel

end ReactorOptions

end Asf.Jobs
