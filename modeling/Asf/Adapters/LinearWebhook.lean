import Asf.Evidence.Decoding

/-!
# Linear webhook deliveries (`src/adapters/linear_webhook.rs`)

`verify_at` authenticates a request and gives it a delivery ID, which callers must claim
before they apply the event. The signature covers the body, and the ID is read from a header.

Results:

* `verifyAt_eq_ok_iff`: which requests are accepted, and as which delivery.
* `delivery_ids_agree_iff`: when two requests with one body get the same ID.
-/

namespace Asf.Adapters.LinearWebhook

open Lib Contracts

/-! ## Requests -/

structure LinearWebhookRequest where
  (delivery event signature timestamp : String)
  rawBody : List UInt8

inductive LinearWebhookAction where
  | create
  | update
  | remove
deriving DecidableEq

structure VerifiedLinearIssueDelivery where
  deliveryId : Uuid
  action : LinearWebhookAction
  issueId : String
  (createdAt webhookTimestamp : DateTime)
  data : Json
  updatedFrom : Option Json

structure LinearWebhookPayload where
  action : LinearWebhookAction
  eventType : String
  createdAt : DateTime
  webhookTimestamp : ℤ
  data : Json
  updatedFrom : Option Json

/-- The variants of `LinearWebhookError` that `verify_at` returns. -/
inductive LinearWebhookError where
  | bodyTooLarge
  | invalidSignature
  | invalidTimestamp
  | staleDelivery
  | invalidDelivery
  | unsupportedEvent
  | invalidPayload
deriving DecidableEq

/-- A verifier has the limits that `with_limits` accepts (lines 95-122). -/
structure LinearWebhookVerifier where
  signingSecret : String
  maxTimestampSkew : Duration
  maxBodyBytes : ℕ
  secret_ne : signingSecret ≠ ""
  skew_bounds : 1000000000 ≤ maxTimestampSkew.nanos ∧ maxTimestampSkew.nanos ≤ 300000000000
  body_bounds : 1 ≤ maxBodyBytes ∧ maxBodyBytes ≤ 16 * 1024 * 1024

/-- `if rejected { return Err(error) }`. -/
def refuseIf (rejected : Prop) [Decidable rejected] (error : LinearWebhookError) :
    Except LinearWebhookError Unit :=
  if rejected then .error error else .ok ()

@[simp] theorem refuseIf_eq_ok_iff {rejected : Prop} [Decidable rejected]
    {error : LinearWebhookError} {u : Unit} : refuseIf rejected error = .ok u ↔ ¬ rejected := by
  unfold refuseIf
  split_ifs with h <;> simp [h]

/-! ## The signature -/

/-- `hex::decode`. -/
def hexDecode : List Char → Option (List UInt8)
  | [] => some []
  | [_] => none
  | high :: low :: rest => do
    let high ← Uuid.parseDigit high
    let low ← Uuid.parseDigit low
    return UInt8.ofNat (16 * high.val + low.val) :: (← hexDecode rest)

theorem hexDecode_hexText (l : List UInt8) : hexDecode (hexText l) = some l := by
  induction l with
  | nil => rfl
  | cons byte l ih =>
    have hbyte : UInt8.ofNat (16 * (byte.toNat / 16 % 16) + byte.toNat % 16) = byte := by
      have hlt := byte.toNat_lt
      rw [show 16 * (byte.toNat / 16 % 16) + byte.toNat % 16 = byte.toNat by omega,
        UInt8.ofNat_toNat]
    rw [hexText, List.flatMap_cons, ← hexText]
    simp only [List.cons_append, List.nil_append, hexDecode, Uuid.parseDigit_hexDigit, ih,
      Option.bind_eq_bind, Option.bind_some]
    exact congrArg (fun first => some (first :: l)) hbyte

/-- HMAC-SHA-256 (`Hmac<Sha256>`). -/
def hmacSha256 (secret message : List UInt8) : List UInt8 :=
  let key := if 64 < secret.length then Sha256.digest secret else secret
  let block := key ++ List.replicate (64 - key.length) 0
  Sha256.digest (block.map (· ^^^ 0x5c) ++ Sha256.digest (block.map (· ^^^ 0x36) ++ message))

/-- `verify_signature` (lines 239-257). HMAC takes a key of any length. -/
def verifySignature (secret body : List UInt8) (signature : String) :
    Except LinearWebhookError Unit := do
  refuseIf ((bytes signature).length ≠ 64 ∨ ¬ (bytes signature).all isLowerHexByte)
    .invalidSignature
  let supplied ← okOr .invalidSignature (hexDecode signature.toList)
  refuseIf (hmacSha256 secret body ≠ supplied) .invalidSignature

/-- The signature of a body is accepted. -/
theorem verifySignature_hmac (secret body : List UInt8) :
    verifySignature secret body (String.ofList (hexText (hmacSha256 secret body))) = .ok () := by
  obtain ⟨hlength, hhex⟩ := bytes_hexText (hmacSha256 secret body)
  have hmac : (hmacSha256 secret body).length = 32 := Sha256.length_digest _
  rw [hmac] at hlength
  simpa [verifySignature, bind_eq_ok_iff, hlength, hexDecode_hexText] using hhex

/-! ## `verify_at` -/

/-- `value.parse::<i64>()`. -/
def parseI64 (value : String) : Option ℤ :=
  let (negative, digits) := match value.toList with
    | '-' :: digits => (true, digits)
    | '+' :: digits => (false, digits)
    | digits => (false, digits)
  if digits ≠ [] ∧ digits.all Char.isDigit then
    let n : ℕ := digits.foldl (fun n c => n * 10 + (c.toNat - 48)) 0
    let n : ℤ := if negative then -n else n
    if -i64Max - 1 ≤ n ∧ n ≤ i64Max then some n else none
  else none

/-- `DateTime::from_timestamp_millis`, which ends with the year 262142 and begins with
    the year -262143. -/
def fromTimestampMillis (millis : ℤ) : Option DateTime :=
  if -8334601228800 * 1000 ≤ millis ∧ millis < 8210266876800 * 1000 then
    some ⟨(millis - 946684800 * 1000) * 1000000⟩
  else none

/-- `parse_delivery_id` (lines 259-266). The thirteenth digit is the version. -/
def parseDeliveryId (value : String) : Except LinearWebhookError Uuid := do
  let deliveryId ← okOr .invalidDelivery (Uuid.parseStr value)
  refuseIf (deliveryId.nibbles[12]? ≠ some 4) .invalidDelivery
  return deliveryId

section VerifyAt

variable (fromSlice : List UInt8 → Option LinearWebhookPayload) (verifier : LinearWebhookVerifier)

/-- `LinearWebhookVerifier::verify_at` (lines 129-189). `fromSlice` is
    `serde_json::from_slice`; `TimeDelta::from_std` takes the skew of every verifier. -/
def verifyAt (request : LinearWebhookRequest) (now : DateTime) :
    Except LinearWebhookError VerifiedLinearIssueDelivery := do
  refuseIf (request.rawBody.length > verifier.maxBodyBytes) .bodyTooLarge
  verifySignature (bytes verifier.signingSecret) request.rawBody request.signature
  let payload ← okOr .invalidPayload (fromSlice request.rawBody)
  let deliveryId ← parseDeliveryId request.delivery
  refuseIf (request.event ≠ "Issue" ∨ payload.eventType ≠ "Issue") .unsupportedEvent
  let headerTimestamp ← okOr .invalidTimestamp (parseI64 request.timestamp)
  refuseIf (headerTimestamp ≠ payload.webhookTimestamp) .invalidTimestamp
  let webhookTimestamp ← okOr .invalidTimestamp (fromTimestampMillis payload.webhookTimestamp)
  refuseIf ((now.nanos - webhookTimestamp.nanos).natAbs > verifier.maxTimestampSkew.nanos)
    .staleDelivery
  refuseIf (¬ payload.data.isObject ∨ payload.updatedFrom.any (!·.isObject)) .invalidPayload
  let issueId ← okOr .invalidPayload
    (((payload.data.field "id").bind Json.asStr).filter (!isBlank ·))
  return {
    deliveryId
    action := payload.action
    issueId
    createdAt := payload.createdAt
    webhookTimestamp
    data := payload.data
    updatedFrom := payload.updatedFrom
  }

/-- What is asked of a request apart from its delivery header, and what is kept of it. -/
structure Authenticated (request : LinearWebhookRequest) (now : DateTime)
    (payload : LinearWebhookPayload) (delivery : VerifiedLinearIssueDelivery) : Prop where
  size : request.rawBody.length ≤ verifier.maxBodyBytes
  signature :
    verifySignature (bytes verifier.signingSecret) request.rawBody request.signature = .ok ()
  decoded : fromSlice request.rawBody = some payload
  event : request.event = "Issue" ∧ payload.eventType = "Issue"
  timestamp : parseI64 request.timestamp = some payload.webhookTimestamp
  instant : fromTimestampMillis payload.webhookTimestamp = some delivery.webhookTimestamp
  fresh : (now.nanos - delivery.webhookTimestamp.nanos).natAbs ≤ verifier.maxTimestampSkew.nanos
  objects : payload.data.isObject ∧ ¬ payload.updatedFrom.any (!·.isObject)
  issueId : ((payload.data.field "id").bind Json.asStr).filter (!isBlank ·) = some delivery.issueId
  kept : payload.action = delivery.action ∧ payload.createdAt = delivery.createdAt
    ∧ payload.data = delivery.data ∧ payload.updatedFrom = delivery.updatedFrom

variable {fromSlice verifier} {request : LinearWebhookRequest} {now : DateTime}
  {delivery : VerifiedLinearIssueDelivery} {id : Uuid}

theorem parseDeliveryId_eq_ok_iff {value : String} : parseDeliveryId value = .ok id
    ↔ Uuid.parseStr value = some id ∧ id.nibbles[12]? = some 4 := by
  simp [parseDeliveryId, bind_eq_ok_iff, pure, Except.pure]

theorem verifyAt_eq_ok_iff : verifyAt fromSlice verifier request now = .ok delivery
    ↔ parseDeliveryId request.delivery = .ok delivery.deliveryId
      ∧ ∃ payload, Authenticated fromSlice verifier request now payload delivery := by
  simp only [verifyAt, bind_eq_ok_iff, refuseIf_eq_ok_iff, okOr_eq_ok_iff, pure_eq_ok_iff]
  constructor
  · rintro ⟨_, hsize, _, hsignature, payload, hdecoded, id, hid, _, hevent, stamp, hstamp, _,
      hsame, instant, hinstant, _, hfresh, _, hobjects, issueId, hissueId, rfl⟩
    obtain rfl := not_not.mp hsame
    exact ⟨hid, payload, not_lt.mp hsize, hsignature, hdecoded, by simpa using hevent, hstamp,
      hinstant, not_lt.mp hfresh, by simpa using hobjects, hissueId, rfl, rfl, rfl, rfl⟩
  · rintro ⟨hid, payload, h⟩
    obtain ⟨haction, hcreated, hdata, hupdated⟩ := h.kept
    refine ⟨(), not_lt.mpr h.size, (), h.signature, payload, h.decoded, _, hid, (), ?_, _,
      h.timestamp, (), not_not.mpr rfl, _, h.instant, (), not_lt.mpr h.fresh, (), ?_, _, h.issueId,
      ?_⟩
    · simpa using h.event
    · simpa using h.objects
    · rw [haction, hcreated, hdata, hupdated]

/-- A request that was accepted is accepted under every ID of version 4. -/
theorem verifyAt_redelivered (h : verifyAt fromSlice verifier request now = .ok delivery)
    (hversion : id.nibbles[12]? = some 4) :
    verifyAt fromSlice verifier { request with delivery := id.toText } now
      = .ok { delivery with deliveryId := id } := by
  obtain ⟨-, payload, hpayload⟩ := verifyAt_eq_ok_iff.mp h
  refine verifyAt_eq_ok_iff.mpr ⟨?_, payload, { hpayload with }⟩
  exact parseDeliveryId_eq_ok_iff.mpr ⟨Uuid.parseStr_toText id, hversion⟩

end VerifyAt

/-! ## One body, several deliveries -/

/-- Two accepted requests with one body differ in nothing but their IDs, which agree exactly
    if the headers spell the same UUID. A body that was accepted once is accepted under every
    ID of version 4, with the signature it has. -/
theorem delivery_ids_agree_iff (fromSlice : List UInt8 → Option LinearWebhookPayload)
    (verifier : LinearWebhookVerifier) (request request' : LinearWebhookRequest)
    (now now' : DateTime) (delivery delivery' : VerifiedLinearIssueDelivery)
    (h : verifyAt fromSlice verifier request now = .ok delivery)
    (h' : verifyAt fromSlice verifier request' now' = .ok delivery')
    (hbody : request.rawBody = request'.rawBody) :
    delivery' = { delivery with deliveryId := delivery'.deliveryId }
      ∧ (delivery.deliveryId = delivery'.deliveryId
        ↔ Uuid.parseStr request.delivery = Uuid.parseStr request'.delivery)
      ∧ ∀ id : Uuid, id.nibbles[12]? = some 4 →
        verifyAt fromSlice verifier { request with delivery := id.toText } now
          = .ok { delivery with deliveryId := id } := by
  obtain ⟨hid, payload, hpayload⟩ := verifyAt_eq_ok_iff.mp h
  obtain ⟨hid', payload', hpayload'⟩ := verifyAt_eq_ok_iff.mp h'
  rw [parseDeliveryId_eq_ok_iff] at hid hid'
  obtain rfl : payload = payload' :=
    Option.some.inj (hpayload.decoded.symm.trans (hbody ▸ hpayload'.decoded))
  refine ⟨?_, ?_, fun id => verifyAt_redelivered h⟩
  · obtain ⟨haction, hcreated, hdata, hupdated⟩ := hpayload.kept
    obtain ⟨haction', hcreated', hdata', hupdated'⟩ := hpayload'.kept
    have hinstant := Option.some.inj (hpayload.instant.symm.trans hpayload'.instant)
    have hissueId := Option.some.inj (hpayload.issueId.symm.trans hpayload'.issueId)
    rw [← haction, ← hcreated, ← hdata, ← hupdated, hinstant, hissueId, haction', hcreated', hdata',
      hupdated']
  · rw [hid.1, hid'.1, Option.some_inj]

namespace Sample

def verifier : LinearWebhookVerifier where
  signingSecret := "secret"
  maxTimestampSkew := ⟨60000000000⟩
  maxBodyBytes := 1024 * 1024
  secret_ne := by decide
  skew_bounds := by decide
  body_bounds := by decide

def payload : LinearWebhookPayload :=
  ⟨.create, "Issue", ⟨0⟩, 946684800000, .obj [("id", .str "issue")], none⟩

def body : List UInt8 :=
  bytes ("\x7b\"action\":\"create\",\"type\":\"Issue\",\"createdAt\":\"2000-01-01T00:00:00Z\","
    ++ "\"webhookTimestamp\":946684800000,\"data\":\x7b\"id\":\"issue\"\x7d\x7d")

def fromSlice (bytes : List UInt8) : Option LinearWebhookPayload :=
  if bytes = body then some payload else none

/-- An ID of version 4. -/
def id (n : ℕ) : Uuid := .ofNat (4 * 16 ^ 19 + 8 * 16 ^ 15 + n)

def request : LinearWebhookRequest where
  delivery := (id 0).toText
  event := "Issue"
  signature := String.ofList (hexText (hmacSha256 (bytes verifier.signingSecret) body))
  timestamp := "946684800000"
  rawBody := body

def delivery : VerifiedLinearIssueDelivery :=
  ⟨id 0, .create, "issue", ⟨0⟩, ⟨0⟩, payload.data, none⟩

theorem verifyAt_request : verifyAt fromSlice verifier request ⟨0⟩ = .ok delivery := by
  refine verifyAt_eq_ok_iff.mpr
    ⟨parseDeliveryId_eq_ok_iff.mpr ⟨Uuid.parseStr_toText _, by decide +kernel⟩, payload, ?_⟩
  exact {
    size := by decide +kernel
    signature := by simp only [request]; exact verifySignature_hmac _ _
    decoded := by simp only [fromSlice, request, if_pos]
    event := ⟨rfl, rfl⟩
    timestamp := by decide +kernel
    instant := by decide +kernel
    fresh := by decide +kernel
    objects := by decide +kernel
    issueId := by decide +kernel
    kept := ⟨rfl, rfl, rfl, rfl⟩ }

/-- One signed body gets two IDs. -/
theorem replay_fresh_id :
    verifyAt fromSlice verifier request ⟨0⟩ = .ok delivery
      ∧ verifyAt fromSlice verifier { request with delivery := (id 1).toText } ⟨0⟩
        = .ok { delivery with deliveryId := id 1 }
      ∧ delivery.deliveryId ≠ id 1 :=
  ⟨verifyAt_request, verifyAt_redelivered verifyAt_request (by decide +kernel), by decide +kernel⟩

end Sample

theorem delivery_ids_agree_sample :
    verifyAt Sample.fromSlice Sample.verifier
        { Sample.request with delivery := (Sample.id 1).toText } ⟨0⟩
      = .ok { Sample.delivery with deliveryId := Sample.id 1 } :=
  (delivery_ids_agree_iff _ _ _ _ _ _ _ _ Sample.verifyAt_request Sample.verifyAt_request rfl).2.2
    _ (by decide +kernel)

end Asf.Adapters.LinearWebhook
