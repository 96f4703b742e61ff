import Asf.Adapters.LinearClosure
import Asf.Evidence.Ledger

/-!
# Receipts of closed sources (`src/runtime/source_closure.rs`)

The gateway answers a close with a receipt. Its time is read from the clock of the
provider, which may be off by `PROVIDER_CLOCK_SKEW_SECONDS`.

Result:

* `genuine_receipt_accepted_iff`: when a receipt for the request is accepted. The skew is granted
  forwards only: a receipt is refused when the clock of the provider is behind by more
  than the time since the request.
-/

namespace Asf.Runtime.SourceClosure

open Contracts
open Adapters.Linear (SourceItemRef)
open Evidence (checkedAddSeconds)

/-- `PROVIDER_CLOCK_SKEW_SECONDS` (line 51). -/
def providerClockSkewSeconds : ℤ := 300

/-- `CloseSourceRequest` (source.rs:277-285): what is compared with a receipt. The item and
    the marker are those of its effect. -/
structure CloseSourceRequest where
  item : SourceItemRef
  (idempotencyKey effectDigest correlationMarker : String)
  requestedAt : DateTime

inductive SourceCloseDisposition where
  | applied | adopted | reconciled

def SourceCloseDisposition.text : SourceCloseDisposition → String
  | .applied => "applied"
  | .adopted => "adopted"
  | .reconciled => "reconciled"

/-- `SourceCloseReceipt` (source.rs:333-344). -/
structure SourceCloseReceipt extends Adapters.Linear.SourceCloseReceipt where
  schema : String
  disposition : SourceCloseDisposition

variable (p : Primitives) (now : DateTime) (request : CloseSourceRequest)
  (receipt : SourceCloseReceipt) (reconciliation : Bool)

def SourceCloseReceipt.toValue : Json :=
  .obj [("schema", .str receipt.schema),
    ("item", .obj [("tenant_id", .str receipt.item.tenantId.toText),
      ("source", .str receipt.item.source.text), ("external_id", .str receipt.item.externalId)]),
    ("idempotency_key", .str receipt.idempotencyKey),
    ("effect_digest", .str receipt.effectDigest),
    ("correlation_marker", .str receipt.correlationMarker),
    ("disposition", .str receipt.disposition.text),
    ("provider_revision", .str receipt.providerRevision),
    ("recorded_at", .str (p.timeText receipt.recordedAt))]

/-- `disposition_valid` (lines 1771-1780). -/
def dispositionValid : Bool → SourceCloseDisposition → Bool
  | true, .reconciled => true
  | true, .applied | true, .adopted => false
  | false, .applied | false, .adopted | false, .reconciled => true

/-- The comparisons of `exact` (lines 1784-1793) but those of the time. -/
def Names : Prop :=
  receipt.schema = "asf.source-close-receipt.v1" ∧ receipt.item = request.item
    ∧ receipt.idempotencyKey = request.idempotencyKey
    ∧ receipt.effectDigest = request.effectDigest
    ∧ receipt.correlationMarker = request.correlationMarker
    ∧ dispositionValid reconciliation receipt.disposition
    ∧ ¬ isBlank receipt.providerRevision
    ∧ trim receipt.providerRevision = receipt.providerRevision

instance : Decidable (Names request receipt reconciliation) := inferInstanceAs (Decidable (_ ∧ _))

/-- `validate_receipt` (lines 1766-1802) at the instant `now`. -/
def validateReceipt : Result Unit := do
  let latestPermitted ← okOr (.validation "source-close receipt clock bound overflowed")
    (checkedAddSeconds now providerClockSkewSeconds)
  failIf (¬ (Names request receipt reconciliation
      ∧ request.requestedAt.nanos ≤ receipt.recordedAt.nanos
      ∧ receipt.recordedAt.nanos ≤ latestPermitted.nanos))
    (.externalUnavailable "Linear source-close receipt contradicts the immutable request")
  rejectSensitiveFields (receipt.toValue p)

/-- A receipt for the request, issued at the true time `issued` by a provider whose clock is
    `offset` nanoseconds ahead. -/
structure Genuine (issued : DateTime) (offset : ℤ) : Prop where
  names : Names request receipt reconciliation
  requested : request.requestedAt.nanos ≤ issued.nanos
  past : issued.nanos ≤ now.nanos
  skew : offset.natAbs ≤ providerClockSkewSeconds * 1000000000
  recordedAt : receipt.recordedAt = ⟨issued.nanos + offset⟩

variable {p now request receipt reconciliation} {issued : DateTime} {offset : ℤ}

theorem checkedAddSeconds_nanos {instant sum : DateTime} {seconds : ℤ}
    (h : checkedAddSeconds instant seconds = some sum) :
    sum.nanos = instant.nanos + seconds * 1000000000 := by
  simp only [checkedAddSeconds, Option.ite_none_right_eq_some, Option.some.injEq] at h
  exact congrArg DateTime.nanos h.2.symm

theorem keys_toValue_not_sensitive : ∀ key ∈ (receipt.toValue p).keys, ¬ isSensitiveKey key := by
  have hkeys : ∀ key ∈ ["schema", "item", "tenant_id", "source", "external_id",
      "idempotency_key", "effect_digest", "correlation_marker", "disposition",
      "provider_revision", "recorded_at"], findsCode sensitiveCodes key = false := by
    decide +kernel
  exact fun key h => not_isSensitiveKey (hkeys key h)

/-- A genuine receipt is accepted exactly when the clock of the provider is not behind by
    more than the time since the request, the clock bound is an instant, and no text of the
    receipt looks like a credential. -/
theorem genuine_receipt_accepted_iff
    (h : Genuine now request receipt reconciliation issued offset) :
    validateReceipt p now request receipt reconciliation = .ok () ↔
      -offset ≤ issued.nanos - request.requestedAt.nanos
        ∧ (checkedAddSeconds now providerClockSkewSeconds).isSome
        ∧ ∀ text ∈ (receipt.toValue p).strings, ¬ isCredentialShaped text := by
  have hpast := h.past
  have hskew := h.skew
  simp only [validateReceipt, bind_eq_ok_iff, exists_unit_iff, failIf_eq_ok_iff, not_not,
    okOr_eq_ok_iff, h.names, h.recordedAt, true_and, rejectSensitiveFields_eq_ok_iff,
    and_iff_right keys_toValue_not_sensitive]
  constructor
  · rintro ⟨latest, hlatest, ⟨hafter, -⟩, htexts⟩
    exact ⟨by omega, Option.isSome_of_eq_some hlatest, htexts⟩
  · rintro ⟨hbehind, hsome, htexts⟩
    obtain ⟨latest, hlatest⟩ := Option.isSome_iff_exists.mp hsome
    have hnanos := checkedAddSeconds_nanos hlatest
    exact ⟨latest, hlatest, ⟨by omega, by omega⟩, htexts⟩

namespace Sample

/-- A request of the first second. -/
def closing : CloseSourceRequest :=
  ⟨⟨.ofNat 1, .linear, "ENG-1"⟩, "close-1", "effect", "marker", ⟨1000000000⟩⟩

def closed (recordedAt : DateTime) : SourceCloseReceipt :=
  ⟨⟨closing.item, "close-1", "effect", "marker", "r1", recordedAt⟩,
    "asf.source-close-receipt.v1", .applied⟩

/-- Its receipts from a clock that is one second behind. -/
theorem genuine {issued : ℤ} (h : 1000000000 ≤ issued) (hpast : issued ≤ 2000000000) :
    Genuine ⟨2000000000⟩ closing (closed ⟨issued - 1000000000⟩) false ⟨issued⟩ (-1000000000) where
  names := ⟨rfl, rfl, rfl, rfl, rfl, rfl,
    (by decide : ¬ isBlank "r1"), (by decide : trim "r1" = "r1")⟩
  requested := h
  past := hpast
  skew := by decide
  recordedAt := rfl

end Sample

theorem genuine_receipt_accepted_after_a_second :
    validateReceipt Instance.primitives ⟨2000000000⟩ Sample.closing (Sample.closed ⟨1000000000⟩)
      false = .ok () :=
  (genuine_receipt_accepted_iff (Sample.genuine (by decide) le_rfl)).mpr ⟨by decide, rfl,
    fun text h => not_isCredentialShaped_of_codes
      ((by decide +kernel : ∀ text ∈ _, _ = false) text h)⟩

/-- A receipt issued when the request was made, by a clock one second behind, is refused. -/
theorem genuine_receipt_refused_at_once :
    Genuine ⟨2000000000⟩ Sample.closing (Sample.closed ⟨0⟩) false ⟨1000000000⟩ (-1000000000)
      ∧ validateReceipt Instance.primitives ⟨2000000000⟩ Sample.closing (Sample.closed ⟨0⟩) false
        = .error (.externalUnavailable
          "Linear source-close receipt contradicts the immutable request") :=
  ⟨Sample.genuine le_rfl (by decide), rfl⟩

end Asf.Runtime.SourceClosure
