import Asf.Audit.Chain
import Asf.Evidence.Decoding

/-!
# The canonical export of an audit chain (`src/audit.rs`)

`AuditChainExport` is written as canonical JSON and read back with every check that
made it. serde_json's parser is a parameter: the value of a text, its objects in the
order of their keys, or what is reported.

Results:

* `AuditChainExport.verify_eq_ok_iff`: the header restates what the events say.
* `AuditChainExport.fromValue_ordered`: the canonical document of an export is read
  as that export.
* `audit_export_round_trip`: export and import are inverse on the verified exports.
-/

namespace Asf

open Lib Contracts Evidence
open Json (asStr asU64)

variable {fields : List (String × Json)} {α : Type}

/-! ## Documents -/

namespace AuditEventContent

/-- The names of the fields (audit.rs:18-36). -/
def names : List String :=
  ["id", "tenant_id", "work_item_id", "attempt_id", "actor_type", "actor_id", "action",
    "subject_type", "subject_id", "correlation_id", "trace_id", "policy_digest",
    "before_digest", "after_digest", "previous_event_hash", "details", "occurred_at"]

/-- What serde writes for a content. -/
def toValue (p : Primitives) (content : AuditEventContent) : Json := .obj [
  ("id", .str content.id.toText),
  ("tenant_id", .str content.tenantId.toText),
  ("work_item_id", .ofOption (fun id => .str id.toText) content.workItemId),
  ("attempt_id", .ofOption (fun id => .str id.toText) content.attemptId),
  ("actor_type", .str content.actorType),
  ("actor_id", .str content.actorId),
  ("action", .str content.action),
  ("subject_type", .str content.subjectType),
  ("subject_id", .str content.subjectId),
  ("correlation_id", .str content.correlationId),
  ("trace_id", .ofOption .str content.traceId),
  ("policy_digest", .ofOption .str content.policyDigest),
  ("before_digest", .ofOption .str content.beforeDigest),
  ("after_digest", .ofOption .str content.afterDigest),
  ("previous_event_hash", .ofOption .str content.previousEventHash),
  ("details", content.details),
  ("occurred_at", .str (p.timeText content.occurredAt))]

/-- The derived reader, which refuses an unknown member. -/
def fromValue (p : Primitives) (value : Json) : Option AuditEventContent := do
  let fields ← structFields names value
  let id ← readField fields "id" readUuid
  let tenantId ← readField fields "tenant_id" readUuid
  let workItemId ← readOption fields "work_item_id" readUuid
  let attemptId ← readOption fields "attempt_id" readUuid
  let actorType ← readField fields "actor_type" asStr
  let actorId ← readField fields "actor_id" asStr
  let action ← readField fields "action" asStr
  let subjectType ← readField fields "subject_type" asStr
  let subjectId ← readField fields "subject_id" asStr
  let correlationId ← readField fields "correlation_id" asStr
  let traceId ← readOption fields "trace_id" asStr
  let policyDigest ← readOption fields "policy_digest" asStr
  let beforeDigest ← readOption fields "before_digest" asStr
  let afterDigest ← readOption fields "after_digest" asStr
  let previousEventHash ← readOption fields "previous_event_hash" asStr
  let details ← readField fields "details" some
  let occurredAt ← readField fields "occurred_at" (readTime p)
  return { id, tenantId, workItemId, attemptId, actorType, actorId, action, subjectType,
           subjectId, correlationId, traceId, policyDigest, beforeDigest, afterDigest,
           previousEventHash, details, occurredAt }

/-- `sha256_digest(&canonical_json(&content)?)` (audit.rs:48, 57). -/
def digest (p : Primitives) (content : AuditEventContent) : Result String := do
  let canonical ← canonicalJson p (content.toValue p)
  return sha256Digest p canonical

end AuditEventContent

namespace HashedAuditEvent

def toValue (p : Primitives) (event : HashedAuditEvent) : Json := .obj [
  ("content", event.content.toValue p), ("event_hash", .str event.eventHash)]

def fromValue (p : Primitives) (value : Json) : Option HashedAuditEvent := do
  let fields ← structFields ["content", "event_hash"] value
  let content ← readField fields "content" (AuditEventContent.fromValue p)
  let eventHash ← readField fields "event_hash" asStr
  return { content, eventHash }

end HashedAuditEvent

/-- `AUDIT_CHAIN_EXPORT_FORMAT` (audit.rs:14). -/
def auditChainExportFormat : String := "asf.audit-chain.v1"

/-- `AuditChainExport` (audit.rs:80-89). -/
structure AuditChainExport where
  format : String
  tenantId : Uuid
  eventCount : ℕ
  (genesisEventHash headEventHash : Option String)
  events : List HashedAuditEvent
deriving DecidableEq

namespace AuditChainExport

def names : List String :=
  ["format", "tenant_id", "event_count", "genesis_event_hash", "head_event_hash", "events"]

def toValue (p : Primitives) (exported : AuditChainExport) : Json := .obj [
  ("format", .str exported.format),
  ("tenant_id", .str exported.tenantId.toText),
  ("event_count", .num exported.eventCount 0),
  ("genesis_event_hash", .ofOption .str exported.genesisEventHash),
  ("head_event_hash", .ofOption .str exported.headEventHash),
  ("events", .arr (exported.events.map (HashedAuditEvent.toValue p)))]

def fromValue (p : Primitives) (value : Json) : Option AuditChainExport := do
  let fields ← structFields names value
  let format ← readField fields "format" asStr
  let tenantId ← readField fields "tenant_id" readUuid
  let eventCount ← readField fields "event_count" asU64
  let genesisEventHash ← readOption fields "genesis_event_hash" asStr
  let headEventHash ← readOption fields "head_event_hash" asStr
  let events ← readField fields "events" (readVec (HashedAuditEvent.fromValue p))
  return { format, tenantId, eventCount, genesisEventHash, headEventHash, events }

/-! ## Export and import -/

variable (p : Primitives)

/-- `AuditChainExport::create` (audit.rs:92-102). -/
def create (tenantId : Uuid) (events : List HashedAuditEvent) : Result AuditChainExport := do
  let verified ← verifyAuditChain (AuditEventContent.digest p) tenantId events
  return {
    format := auditChainExportFormat
    tenantId
    eventCount := verified.eventCount
    genesisEventHash := verified.genesisEventHash
    headEventHash := verified.headEventHash
    events }

/-- `AuditChainExport::verify` (audit.rs:104-130). -/
def verify (exported : AuditChainExport) : Result VerifiedAuditChain := do
  failIf (exported.format ≠ auditChainExportFormat)
    (.validation s!"unsupported audit-chain export format {debugText exported.format}")
  let verified ← verifyAuditChain (AuditEventContent.digest p) exported.tenantId exported.events
  failIf (exported.eventCount ≠ verified.eventCount)
    (.validation "audit-chain export event count does not match its events")
  failIf (exported.genesisEventHash ≠ verified.genesisEventHash)
    (.validation "audit-chain export genesis hash does not match its events")
  failIf (exported.headEventHash ≠ verified.headEventHash)
    (.validation "audit-chain export head hash does not match its events")
  return verified

/-- `AuditChainExport::to_canonical_bytes` (audit.rs:133-136). -/
def toCanonicalBytes (exported : AuditChainExport) : Result (List UInt8) := do
  let _ ← exported.verify p
  canonicalJson p (exported.toValue p)

/-- `AuditChainExport::from_canonical_bytes` (audit.rs:139-149). `fromSlice` parses the
    bytes and `report` is what serde says of a document that is not an export. -/
def fromCanonicalBytes (fromSlice : List UInt8 → Except String Json) (report : Json → String)
    (bytes : List UInt8) : Result AuditChainExport := do
  let document ← (fromSlice bytes).mapError .serialization
  let exported ← okOr (.serialization (report document)) (fromValue p document)
  let _ ← exported.verify p
  let canonical ← canonicalJson p (exported.toValue p)
  failIf (canonical ≠ bytes) (.validation "audit-chain export is not canonical JSON")
  return exported

/-- `AuditChainExport::digest` (audit.rs:152-154). -/
def digest (exported : AuditChainExport) : Result String := do
  let bytes ← exported.toCanonicalBytes p
  return sha256Digest p bytes

end AuditChainExport

/-! ## Reading the canonical documents -/

/-- A struct is read from the canonical form of the object that was written for it. -/
theorem structFields_ordered_bind {names : List String}
    {read : List (String × Json) → Option α} {result : Option α}
    (hnames : fields.map Prod.fst = names) (hnodup : names.Nodup)
    (h : ∀ members, (∀ (n : ℕ) {name : String} {value : Json}, fields[n]? = some (name, value) →
      (Json.obj members).field name = some value.ordered) → read members = result) :
    (structFields names (Json.obj fields).ordered >>= read) = result := by
  subst hnames
  obtain ⟨members, hmembers⟩ : ∃ members, (Json.obj fields).ordered = .obj members := ⟨_, rfl⟩
  have hkeys : ∀ member ∈ members, (fields.map Prod.fst).contains member.1 := by
    intro member hmember
    rw [Json.ordered, Json.obj.injEq] at hmembers
    rw [← hmembers] at hmember
    have hkey := Json.mem_keys_insertFields.mp (List.mem_map_of_mem hmember)
    rw [Json.orderedFields_eq_map, List.map_map] at hkey
    simpa using hkey
  have hstruct : structFields (fields.map Prod.fst) (.obj members) = some members := by
    rw [structFields, if_pos (List.all_eq_true.mpr hkeys)]
  rw [hmembers, hstruct]
  apply h
  intro n name value hget
  have hfield : (Json.obj fields).field name = some value := by
    have hfind := (find?_key_eq_some_iff hnodup).mpr ⟨List.mem_of_getElem? hget, rfl⟩
    simp [Json.field, hfind]
  rw [← hmembers, Json.field_ordered hnodup, hfield, Option.map_some]

theorem readOption_of {name : String} {write : α → String} {read : Json → Option α}
    {value : Option α} (h : (Json.obj fields).field name
      = some (Json.ofOption (fun a => .str (write a)) value).ordered)
    (hread : ∀ a, read (.str (write a)) = some a) : readOption fields name read = some value := by
  cases value with
  | none => rw [readOption, h, Json.ofOption, Json.ordered]
  | some a =>
    rw [readOption, h, Json.ofOption, Json.ordered]
    simp [hread]

theorem readField_of_str {name text : String} {read : Json → Option α}
    (h : (Json.obj fields).field name = some (Json.str text).ordered) :
    readField fields name read = read (.str text) := by
  rw [readField_of h, Json.ordered]

section Reading

variable {p : Primitives}

theorem AuditEventContent.fromValue_ordered {content : AuditEventContent}
    (htime : p.parseUtc (p.timeText content.occurredAt) = some content.occurredAt)
    (hdetails : content.details.ordered = content.details) :
    fromValue p (content.toValue p).ordered = some content := by
  refine structFields_ordered_bind rfl (by decide +kernel) fun members get => ?_
  have htext (text : String) : asStr (.str text) = some text := rfl
  have hread : readTime p (.str (p.timeText content.occurredAt)) = some content.occurredAt := htime
  rw [readField_of_str (get 0 rfl), readUuid_toText, readField_of_str (get 1 rfl), readUuid_toText,
    readOption_of (get 2 rfl) readUuid_toText, readOption_of (get 3 rfl) readUuid_toText,
    readField_of_str (get 4 rfl), readField_of_str (get 5 rfl), readField_of_str (get 6 rfl),
    readField_of_str (get 7 rfl), readField_of_str (get 8 rfl), readField_of_str (get 9 rfl),
    readOption_of (get 10 rfl) htext, readOption_of (get 11 rfl) htext, readOption_of (get 12 rfl)
    htext, readOption_of (get 13 rfl) htext, readOption_of (get 14 rfl) htext, readField_of (get 15
    rfl), hdetails, readField_of_str (get 16 rfl), hread]
  rfl

theorem HashedAuditEvent.fromValue_ordered {event : HashedAuditEvent}
    (htime : p.parseUtc (p.timeText event.content.occurredAt) = some event.content.occurredAt)
    (hdetails : event.content.details.ordered = event.content.details) :
    fromValue p (event.toValue p).ordered = some event := by
  refine structFields_ordered_bind rfl (by decide +kernel) fun members get => ?_
  rw [readField_of (get 0 rfl), AuditEventContent.fromValue_ordered htime hdetails,
    readField_of_str (get 1 rfl)]
  rfl

/-- The canonical document of an export is read as that export. -/
theorem AuditChainExport.fromValue_ordered {exported : AuditChainExport}
    (hcount : exported.eventCount ≤ u64Max)
    (htimes : ∀ event ∈ exported.events,
      p.parseUtc (p.timeText event.content.occurredAt) = some event.content.occurredAt)
    (hdetails : ∀ event ∈ exported.events, event.content.details.ordered = event.content.details) :
    fromValue p (exported.toValue p).ordered = some exported := by
  refine structFields_ordered_bind rfl (by decide +kernel) fun members get => ?_
  have htext (text : String) : asStr (.str text) = some text := rfl
  have hevents : readVec (HashedAuditEvent.fromValue p)
      (Json.arr (exported.events.map (HashedAuditEvent.toValue p))).ordered
      = some exported.events := by
    rw [Json.ordered, Json.orderedItems_eq_map, List.map_map]
    exact readVec_map fun event he =>
      HashedAuditEvent.fromValue_ordered (htimes event he) (hdetails event he)
  rw [readField_of_str (get 0 rfl), readField_of_str (get 1 rfl), readUuid_toText, readField_of (get
    2 rfl), Json.ordered, Json.asU64_num hcount, readOption_of (get 3 rfl) htext, readOption_of (get
    4 rfl) htext, readField_of (get 5 rfl), hevents]
  rfl

end Reading

/-! ## Export and import are inverse -/

namespace AuditChainExport

/-- The exports that pass `AuditChainExport::verify`. -/
@[mk_iff] structure Verifies (p : Primitives) (exported : AuditChainExport) : Prop where
  format : exported.format = auditChainExportFormat
  accepted : AcceptedChain (AuditEventContent.digest p) exported.tenantId exported.events
  eventCount : exported.eventCount = exported.events.length
  genesisEventHash : exported.genesisEventHash = exported.events.head?.map (·.eventHash)
  headEventHash : exported.headEventHash = exported.events.getLast?.map (·.eventHash)

/-- serde_json reads what serde_jcs writes for the export: the text is the text of a
    value and that value is the document. The details are listed in key order. -/
structure ParsesBack (p : Primitives) (fromSlice : List UInt8 → Except String Json)
    (exported : AuditChainExport) : Prop where
  canonical : ∃ bytes, canonicalJson p (exported.toValue p) = .ok bytes
    ∧ fromSlice bytes = .ok (exported.toValue p).ordered
  times : ∀ event ∈ exported.events,
    p.parseUtc (p.timeText event.content.occurredAt) = some event.content.occurredAt
  details : ∀ event ∈ exported.events, event.content.details.ordered = event.content.details

variable {p : Primitives} {fromSlice : List UInt8 → Except String Json} {report : Json → String}
  {exported : AuditChainExport} {bytes : List UInt8}

theorem verify_eq_ok_iff {verified : VerifiedAuditChain} :
    exported.verify p = .ok verified
      ↔ exported.Verifies p ∧ verified = .of exported.tenantId exported.events := by
  simp only [verify, bind_eq_ok_iff, exists_unit_iff, failIf_eq_ok_iff,
    verifyAuditChain_eq_ok_iff, ne_eq, not_not, pure_eq_ok_iff, verifies_iff,
    and_assoc, exists_and_left, exists_eq_left, @eq_comm _ verified]
  rfl

theorem exists_verify_iff : (∃ verified, exported.verify p = .ok verified)
    ↔ exported.Verifies p := by
  simp [verify_eq_ok_iff]

theorem toCanonicalBytes_eq_ok_iff : exported.toCanonicalBytes p = .ok bytes
    ↔ exported.Verifies p ∧ canonicalJson p (exported.toValue p) = .ok bytes := by
  simp [toCanonicalBytes, bind_eq_ok_iff, ← exists_verify_iff]

/-- An import is verified and was read from its canonical bytes. -/
theorem fromCanonicalBytes_eq_ok_iff :
    fromCanonicalBytes p fromSlice report bytes = .ok exported
      ↔ (∃ document, fromSlice bytes = .ok document ∧ fromValue p document = some exported)
        ∧ exported.Verifies p ∧ canonicalJson p (exported.toValue p) = .ok bytes := by
  simp only [fromCanonicalBytes, bind_eq_ok_iff, exists_unit_iff, mapError_eq_ok_iff,
    okOr_eq_ok_iff, failIf_eq_ok_iff, ne_eq, not_not, pure_eq_ok_iff]
  constructor
  · rintro ⟨document, hdocument, _, hvalue, verified, hverify, _, hcanonical, rfl, rfl⟩
    exact ⟨⟨document, hdocument, hvalue⟩, exists_verify_iff.mp ⟨verified, hverify⟩, hcanonical⟩
  · rintro ⟨⟨document, hdocument, hvalue⟩, hverifies, hcanonical⟩
    obtain ⟨verified, hverify⟩ := exists_verify_iff.mpr hverifies
    exact ⟨document, hdocument, exported, hvalue, verified, hverify, bytes, hcanonical, rfl, rfl⟩

theorem Verifies.eventCount_le (h : exported.Verifies p) : exported.eventCount ≤ u64Max :=
  h.eventCount ▸ h.accepted.counted

/-- The canonical bytes of a verified export are read as that export. -/
theorem ParsesBack.exists_document (h : exported.ParsesBack p fromSlice)
    (hverifies : exported.Verifies p) (hbytes : canonicalJson p (exported.toValue p) = .ok bytes) :
    ∃ document, fromSlice bytes = .ok document ∧ fromValue p document = some exported := by
  obtain ⟨canonical, hcanonical, hslice⟩ := h.canonical
  obtain rfl : canonical = bytes := Except.ok.inj (hcanonical.symm.trans hbytes)
  exact ⟨_, hslice, fromValue_ordered hverifies.eventCount_le h.times h.details⟩

theorem create_eq_ok_iff {tenantId : Uuid} {events : List HashedAuditEvent} :
    create p tenantId events = .ok exported
      ↔ exported.Verifies p ∧ exported.tenantId = tenantId ∧ exported.events = events := by
  simp only [create, bind_eq_ok_iff, verifyAuditChain_eq_ok_iff, pure_eq_ok_iff]
  constructor
  · rintro ⟨_, ⟨haccepted, rfl⟩, rfl⟩
    exact ⟨⟨rfl, haccepted, rfl, rfl, rfl⟩, rfl, rfl⟩
  · rintro ⟨⟨hformat, haccepted, hcount, hgenesis, hhead⟩, rfl, rfl⟩
    refine ⟨_, ⟨haccepted, rfl⟩, ?_⟩
    cases exported
    simp only [VerifiedAuditChain.of, mk.injEq, true_and, and_true]
    exact ⟨hformat.symm, hcount.symm, hgenesis.symm, hhead.symm⟩

end AuditChainExport

section RoundTrip

open AuditChainExport

/-- Where canonical JSON is parsed back: an export has canonical bytes exactly if it
    verifies, and they are imported as that export; what is imported as an export are its
    canonical bytes alone. A verified chain is exported and imported unchanged. -/
theorem audit_export_round_trip (p : Primitives) (fromSlice : List UInt8 → Except String Json)
    (report : Json → String) :
    (∀ exported : AuditChainExport, exported.ParsesBack p fromSlice →
      ((∃ bytes, exported.toCanonicalBytes p = .ok bytes)
          ↔ ∃ verified, exported.verify p = .ok verified)
        ∧ (∀ bytes, exported.toCanonicalBytes p = .ok bytes →
          fromCanonicalBytes p fromSlice report bytes = .ok exported)
        ∧ ∀ bytes, fromCanonicalBytes p fromSlice report bytes = .ok exported
          ↔ (∃ verified, exported.verify p = .ok verified)
            ∧ canonicalJson p (exported.toValue p) = .ok bytes)
      ∧ (∀ exported bytes bytes', fromCanonicalBytes p fromSlice report bytes = .ok exported →
        fromCanonicalBytes p fromSlice report bytes' = .ok exported → bytes = bytes')
      ∧ ∀ tenantId events summary,
        verifyAuditChain (AuditEventContent.digest p) tenantId events = .ok summary →
        ∃ exported, create p tenantId events = .ok exported
          ∧ exported.tenantId = tenantId ∧ exported.events = events
          ∧ (exported.ParsesBack p fromSlice → ∃ bytes, exported.toCanonicalBytes p = .ok bytes
            ∧ fromCanonicalBytes p fromSlice report bytes = .ok exported) := by
  refine ⟨fun exported hparses => ⟨?_, ?_, ?_⟩, ?_, ?_⟩
  · simp only [toCanonicalBytes_eq_ok_iff, exists_and_left, exists_verify_iff]
    obtain ⟨bytes, hbytes, -⟩ := hparses.canonical
    exact and_iff_left ⟨bytes, hbytes⟩
  · intro bytes hexport
    obtain ⟨hverifies, hbytes⟩ := toCanonicalBytes_eq_ok_iff.mp hexport
    exact fromCanonicalBytes_eq_ok_iff.mpr
      ⟨hparses.exists_document hverifies hbytes, hverifies, hbytes⟩
  · intro bytes
    rw [fromCanonicalBytes_eq_ok_iff, exists_verify_iff]
    exact and_iff_right_of_imp fun h => hparses.exists_document h.1 h.2
  · intro exported bytes bytes' h h'
    obtain ⟨-, -, hbytes⟩ := fromCanonicalBytes_eq_ok_iff.mp h
    obtain ⟨-, -, hbytes'⟩ := fromCanonicalBytes_eq_ok_iff.mp h'
    exact Except.ok.inj (hbytes.symm.trans hbytes')
  · intro tenantId events summary hverify
    obtain ⟨exported, hcreate⟩ : ∃ exported, create p tenantId events = .ok exported := by
      rw [create, hverify]
      exact ⟨_, rfl⟩
    obtain ⟨hverifies, htenant, hevents⟩ := create_eq_ok_iff.mp hcreate
    refine ⟨exported, hcreate, htenant, hevents, fun hparses => ?_⟩
    obtain ⟨bytes, hbytes, -⟩ := hparses.canonical
    exact ⟨bytes, toCanonicalBytes_eq_ok_iff.mpr ⟨hverifies, hbytes⟩,
      fromCanonicalBytes_eq_ok_iff.mpr
        ⟨hparses.exists_document hverifies hbytes, hverifies, hbytes⟩⟩

end RoundTrip

namespace ExportSample

open Instance

/-- The canonical form of a value. -/
def canonical (value : Json) : List UInt8 := bytes (String.ofList value.canonicalText)

def event : HashedAuditEvent where
  content := ChainSample.content 1 none
  eventHash := sha256Digest primitives (canonical ((ChainSample.content 1 none).toValue primitives))

def exported : AuditChainExport where
  format := auditChainExportFormat
  tenantId := .ofNat 7
  eventCount := 1
  genesisEventHash := some event.eventHash
  headEventHash := some event.eventHash
  events := [event]

/-- The parser, on the bytes of the export. -/
def fromSlice (text : List UInt8) : Except String Json :=
  if text = canonical (exported.toValue primitives) then .ok (exported.toValue primitives).ordered
  else .error "expected value at line 1 column 1"

theorem canonicalJson_eq_ok (value : Json) :
    canonicalJson primitives value = .ok (canonical value) := rfl

theorem digest_event : AuditEventContent.digest primitives event.content = .ok event.eventHash := by
  rw [AuditEventContent.digest, canonicalJson_eq_ok]
  rfl

theorem validate_event : event.content.validate = .ok () := by
  decide +kernel

theorem accepted : AcceptedChain (AuditEventContent.digest primitives) (.ofNat 7) [event] where
  verified e he := by
    obtain rfl := List.mem_singleton.mp he
    exact HashedAuditEvent.verify_eq_ok_iff.mpr ⟨validate_event, digest_event⟩
  ofTenant e he := by
    obtain rfl := List.mem_singleton.mp he
    rfl
  ids := List.nodup_singleton _
  hashes := List.nodup_singleton _
  chained := ⟨rfl, trivial⟩
  counted := by decide

theorem verifies : exported.Verifies primitives :=
  ⟨rfl, accepted, rfl, rfl, rfl⟩

theorem parsesBack : exported.ParsesBack primitives fromSlice where
  canonical := ⟨_, canonicalJson_eq_ok _, if_pos rfl⟩
  times e he := by
    obtain rfl := List.mem_singleton.mp he
    show parseTime (timeText ⟨0⟩) = some ⟨0⟩
    decide
  details e he := by
    obtain rfl := List.mem_singleton.mp he
    rfl

end ExportSample

section

open ExportSample Instance AuditChainExport

theorem audit_export_round_trip_sample :
    create primitives (.ofNat 7) [event] = .ok exported
      ∧ exported.toCanonicalBytes primitives = .ok (canonical (exported.toValue primitives))
      ∧ fromCanonicalBytes primitives fromSlice (fun _ => "")
          (canonical (exported.toValue primitives)) = .ok exported := by
  obtain ⟨hexports, hunique, hchains⟩ := audit_export_round_trip primitives fromSlice (fun _ => "")
  have hcreate : create primitives (.ofNat 7) [event] = .ok exported :=
    create_eq_ok_iff.mpr ⟨verifies, rfl, rfl⟩
  obtain ⟨created, hcreated, -, -, hround⟩ :=
    hchains (.ofNat 7) [event] _ (verifyAuditChain_eq_ok_iff.mpr ⟨accepted, rfl⟩)
  obtain rfl : exported = created := Except.ok.inj (hcreate.symm.trans hcreated)
  obtain ⟨text, hexport, himport⟩ := hround parsesBack
  have hcanonical := (hexports exported parsesBack).2.1 _
    (toCanonicalBytes_eq_ok_iff.mpr ⟨verifies, canonicalJson_eq_ok _⟩)
  have htext := hunique exported text _ himport hcanonical
  exact ⟨hcreate, htext ▸ hexport, hcanonical⟩

end

end Asf
