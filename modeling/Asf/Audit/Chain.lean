import Asf.Audit.Event
import Asf.Lib.HashChain

/-!
# The audit chain of a tenant (`src/audit.rs`)

Each event names the hash of the event before it, so that the hash of the last event,
the head, commits to the whole chain.

Results:

* `verifyAuditChain_eq_ok_iff`: what the loop accepts, and what it reports.
* `audit_chain_tamper_evident`: as far as the hash has no collisions, two accepted
  chains with the same head are the same.
-/

namespace Asf

open Lib

/-! ## Verification -/

/-- `VerifiedAuditChain` (audit.rs:64-73). -/
structure VerifiedAuditChain where
  tenantId : Uuid
  eventCount : ℕ
  genesisEventId : Option Uuid
  genesisEventHash : Option String
  headEventId : Option Uuid
  headEventHash : Option String
deriving DecidableEq

/-- What is reported of a chain (audit.rs:196-203). -/
def VerifiedAuditChain.of (tenantId : Uuid) (events : List HashedAuditEvent) :
    VerifiedAuditChain where
  tenantId := tenantId
  eventCount := events.length
  genesisEventId := events.head?.map (·.content.id)
  genesisEventHash := events.head?.map (·.eventHash)
  headEventId := events.getLast?.map (·.content.id)
  headEventHash := events.getLast?.map (·.eventHash)

section Verification

variable (digest : AuditEventContent → Result String) (tenantId : Uuid)

/-- The loop of `verify_audit_chain` (audit.rs:169-193), from the event at `index` on. -/
def verifyEvents (index : ℕ) (eventIds : Finset Uuid) (eventHashes : Finset String)
    (expectedPreviousHash : Option String) : List HashedAuditEvent → Result Unit
  | [] => .ok ()
  | event :: rest => do
    event.verify digest
    failIf (event.content.tenantId ≠ tenantId)
      (.validation s!"audit event at index {index} belongs to a different tenant")
    failIf (event.content.id ∈ eventIds)
      (.validation s!"audit chain contains duplicate event ID at index {index}")
    failIf (event.eventHash ∈ eventHashes)
      (.validation s!"audit chain contains duplicate event hash at index {index}")
    failIf (event.content.previousEventHash ≠ expectedPreviousHash)
      (.validation s!"audit chain is out of order or has a gap at index {index}")
    verifyEvents (index + 1) (insert event.content.id eventIds) (insert event.eventHash eventHashes)
      (some event.eventHash) rest

/-- `verify_audit_chain` (audit.rs:161-204). -/
def verifyAuditChain (events : List HashedAuditEvent) : Result VerifiedAuditChain := do
  verifyEvents digest tenantId 0 ∅ ∅ none events
  failIf (u64Max < events.length) (.validation "audit chain contains too many events")
  return .of tenantId events

/-! ## What is accepted -/

/-- Each event names the hash of the one before it, and the first one `expected`. -/
abbrev ChainedFrom (expected : Option String) (events : List HashedAuditEvent) : Prop :=
  Linked (·.content.previousEventHash) (·.eventHash) expected events

/-- The chains that pass `verify_audit_chain`. -/
@[mk_iff] structure AcceptedChain (events : List HashedAuditEvent) : Prop where
  verified : ∀ event ∈ events, event.verify digest = .ok ()
  ofTenant : ∀ event ∈ events, event.content.tenantId = tenantId
  ids : (events.map (·.content.id)).Nodup
  hashes : (events.map (·.eventHash)).Nodup
  chained : ChainedFrom none events
  counted : events.length ≤ u64Max

variable {digest tenantId} {events : List HashedAuditEvent} {summary : VerifiedAuditChain}

theorem verifyEvents_eq_ok_iff {index : ℕ} {eventIds : Finset Uuid} {eventHashes : Finset String}
    {expected : Option String} :
    verifyEvents digest tenantId index eventIds eventHashes expected events = .ok ()
      ↔ (∀ event ∈ events, event.verify digest = .ok () ∧ event.content.tenantId = tenantId
            ∧ event.content.id ∉ eventIds ∧ event.eventHash ∉ eventHashes)
        ∧ (events.map (·.content.id)).Nodup ∧ (events.map (·.eventHash)).Nodup
        ∧ ChainedFrom expected events := by
  induction events generalizing index eventIds eventHashes expected with
  | nil => simp [verifyEvents, Linked]
  | cons event rest ih =>
    simp only [verifyEvents, seq_eq_ok_iff, failIf_eq_ok_iff, ih, ne_eq, not_not,
      Finset.mem_insert, not_or, List.forall_mem_cons, List.map_cons, List.nodup_cons,
      List.mem_map, not_exists, not_and, Linked]
    constructor
    · rintro ⟨hverify, htenant, hid, hhash, hlink, hrest, hids, hhashes, hchained⟩
      exact ⟨⟨⟨hverify, htenant, hid, hhash⟩, fun e he =>
          ⟨(hrest e he).1, (hrest e he).2.1, (hrest e he).2.2.1.2, (hrest e he).2.2.2.2⟩⟩,
        ⟨fun e he => (hrest e he).2.2.1.1, hids⟩, ⟨fun e he => (hrest e he).2.2.2.1, hhashes⟩,
        hlink, hchained⟩
    · rintro ⟨⟨⟨hverify, htenant, hid, hhash⟩, hrest⟩, ⟨hfreshId, hids⟩, ⟨hfreshHash, hhashes⟩,
        hlink, hchained⟩
      exact ⟨hverify, htenant, hid, hhash, hlink, fun e he =>
          ⟨(hrest e he).1, (hrest e he).2.1, ⟨hfreshId e he, (hrest e he).2.2.1⟩,
            hfreshHash e he, (hrest e he).2.2.2⟩,
        hids, hhashes, hchained⟩

theorem verifyAuditChain_eq_ok_iff :
    verifyAuditChain digest tenantId events = .ok summary
      ↔ AcceptedChain digest tenantId events ∧ summary = .of tenantId events := by
  simp only [verifyAuditChain, bind_eq_ok_iff, exists_unit_iff, verifyEvents_eq_ok_iff,
    failIf_eq_ok_iff, not_lt, pure_eq_ok_iff, Finset.notMem_empty, not_false_eq_true, and_true,
    acceptedChain_iff, imp_and, forall_and, and_assoc, @eq_comm _ summary]

theorem HashedAuditEvent.verify_eq_ok_iff {event : HashedAuditEvent} :
    event.verify digest = .ok ()
      ↔ event.content.validate = .ok () ∧ digest event.content = .ok event.eventHash := by
  simp only [verify, bind_eq_ok_iff, exists_unit_iff, failIf_eq_ok_iff, ne_eq, not_not,
    exists_eq_right]

theorem HashedAuditEvent.create_eq_ok_iff {content : AuditEventContent} {event : HashedAuditEvent} :
    create digest content = .ok event ↔ event.content = content ∧ event.verify digest = .ok () := by
  simp only [verify_eq_ok_iff, create, bind_eq_ok_iff, exists_unit_iff, pure_eq_ok_iff]
  constructor
  · rintro ⟨hvalid, hash, hdigest, rfl⟩
    exact ⟨rfl, hvalid, hdigest⟩
  · rintro ⟨rfl, hvalid, hdigest⟩
    exact ⟨hvalid, event.eventHash, hdigest, rfl⟩

/-! ## The head commits to the chain -/

/-- No two of the contents have the same hash. -/
def CollisionFree (digest : AuditEventContent → Result String)
    (contents : Set AuditEventContent) : Prop :=
  ∀ a ∈ contents, ∀ b ∈ contents, ∀ hash, digest a = .ok hash → digest b = .ok hash → a = b

/-- Verified events with the same hash are the same, as far as there are no collisions. -/
theorem CollisionFree.event_eq {contents : Set AuditEventContent}
    (hfree : CollisionFree digest contents) {event event' : HashedAuditEvent}
    (hmem : event.content ∈ contents) (hmem' : event'.content ∈ contents)
    (hverify : event.verify digest = .ok ()) (hverify' : event'.verify digest = .ok ())
    (hhash : event.eventHash = event'.eventHash) : event = event' := by
  rw [HashedAuditEvent.verify_eq_ok_iff] at hverify hverify'
  have hcontent := hfree _ hmem _ hmem' _ hverify.2 (hhash ▸ hverify'.2)
  cases event
  cases event'
  simp_all

end Verification

/-- Where the hash has no collisions, accepted chains of a tenant that end in the same
    hash are equal. In an accepted chain no id and no hash is repeated, the first event
    names no other and each later one names the hash of the event before it. -/
theorem audit_chain_tamper_evident (digest : AuditEventContent → Result String) (tenantId : Uuid) :
    (∀ contents : Set AuditEventContent, CollisionFree digest contents →
      ∀ events events' summary summary', (∀ event ∈ events, event.content ∈ contents) →
        (∀ event ∈ events', event.content ∈ contents) →
        verifyAuditChain digest tenantId events = .ok summary →
        verifyAuditChain digest tenantId events' = .ok summary' →
        summary.headEventHash = summary'.headEventHash → events = events')
      ∧ ∀ events summary, verifyAuditChain digest tenantId events = .ok summary →
        (events.map (·.content.id)).Nodup ∧ (events.map (·.eventHash)).Nodup
        ∧ (∀ first, events.head? = some first → first.content.previousEventHash = none)
        ∧ ∀ (i : ℕ) (hi : i + 1 < events.length),
            events[i + 1].content.previousEventHash = some events[i].eventHash := by
  constructor
  · intro contents hfree events events' summary summary' hmem hmem' h h' hhead
    obtain ⟨haccepted, rfl⟩ := verifyAuditChain_eq_ok_iff.mp h
    obtain ⟨haccepted', rfl⟩ := verifyAuditChain_eq_ok_iff.mp h'
    exact eq_of_linked
      (fun event he event' he' => hfree.event_eq (hmem _ he) (hmem' _ he')
        (haccepted.verified _ he) (haccepted'.verified _ he'))
      haccepted.chained haccepted'.chained hhead
  · intro events summary h
    obtain ⟨haccepted, -⟩ := verifyAuditChain_eq_ok_iff.mp h
    exact ⟨haccepted.ids, haccepted.hashes, fun _ => haccepted.chained.head?,
      fun _ => haccepted.chained.getElem_succ⟩

namespace ChainSample

/-- An event of the reactor. -/
def content (id : ℕ) (previousEventHash : Option String) : AuditEventContent where
  id := .ofNat id
  tenantId := .ofNat 7
  workItemId := none
  attemptId := none
  actorType := "control_plane"
  actorId := "asf:reactor"
  action := "work.accept"
  subjectType := "work_item"
  subjectId := "item"
  correlationId := "request"
  traceId := none
  policyDigest := none
  beforeDigest := none
  afterDigest := none
  previousEventHash := previousEventHash
  details := .obj []
  occurredAt := ⟨0⟩

def firstHash : String := "sha256:23d0c3743a90c375cd3023cb5b51586bc333837c275b9ed47b1b339d72af46f3"

def secondHash : String := "sha256:49f2b8c8d40a5f2a5bdffbe5d8b74158c3d305b3d9fb87e935667b61d7c03d71"

/-- SHA-256 of the canonical form of the two events. -/
def digest (event : AuditEventContent) : Result String :=
  if event = content 1 none then .ok firstHash
  else if event = content 2 (some firstHash) then .ok secondHash
  else .error (.serialization "not an event of the sample")

def events : List HashedAuditEvent :=
  [⟨content 1 none, firstHash⟩, ⟨content 2 (some firstHash), secondHash⟩]

theorem verifyAuditChain_events : verifyAuditChain digest (.ofNat 7) events
    = .ok (.of (.ofNat 7) events) := by
  decide +kernel

theorem collisionFree_digest :
    CollisionFree digest {content 1 none, content 2 (some firstHash)} := by
  have hids : content 2 (some firstHash) ≠ content 1 none := by decide +kernel
  have hhashes : firstHash ≠ secondHash := by decide +kernel
  have hfirst : digest (content 1 none) = .ok firstHash := if_pos rfl
  have hsecond : digest (content 2 (some firstHash)) = .ok secondHash :=
    (if_neg hids).trans (if_pos rfl)
  rintro a (rfl | rfl) b (rfl | rfl) hash ha hb
  · rfl
  · exact absurd (Except.ok.inj (hfirst.symm.trans (ha.trans (hb.symm.trans hsecond)))) hhashes
  · exact absurd (Except.ok.inj (hfirst.symm.trans (hb.trans (ha.symm.trans hsecond)))) hhashes
  · rfl

end ChainSample

section

open ChainSample

theorem audit_chain_tamper_evident_sample :
    CollisionFree digest {content 1 none, content 2 (some firstHash)}
      ∧ events = [⟨content 1 none, firstHash⟩, ⟨content 2 (some firstHash), secondHash⟩]
      ∧ (events.map (·.eventHash)).Nodup
      ∧ events[1].content.previousEventHash = some events[0].eventHash := by
  have h := audit_chain_tamper_evident digest (.ofNat 7)
  have hmem : ∀ event ∈ events,
      event.content ∈ ({content 1 none, content 2 (some firstHash)} : Set AuditEventContent) := by
    simp [events]
  have hlinks := h.2 events _ verifyAuditChain_events
  exact ⟨collisionFree_digest,
    h.1 _ collisionFree_digest _ _ _ _ hmem hmem verifyAuditChain_events verifyAuditChain_events
      rfl,
    hlinks.2.1, hlinks.2.2.2 0 (by decide)⟩

end

end Asf
