import Asf.Common.Json
import Asf.Common.Text

/-!
# Audit events (`src/audit.rs`)

The content of an audit event, its validation with the filter of sensitive
fields of `src/security.rs`, and the hash over its canonical form, which is a
parameter: canonical JSON and SHA-256 are outside the crate.
-/

namespace Asf

/-! ## Sensitive fields -/

/-- `SENSITIVE_KEY_FRAGMENTS` (security.rs:91-104). -/
def sensitiveKeyFragments : List String :=
  ["access_token", "refresh_token", "authorization", "api_key", "secret", "password",
    "credential", "keyring", "execution_handle", "vendor_home", "state_dir", "token_file"]

/-- The key test of `inspect` (security.rs:115-119). -/
def isSensitiveKey (key : String) : Bool :=
  sensitiveKeyFragments.any fun fragment => containsText (toAsciiLowercase key) fragment

/-- The string test of `inspect` (security.rs:135-138). -/
def isCredentialShaped (value : String) : Bool :=
  let lowercase := toAsciiLowercase value
  "bearer ".toList.isPrefixOf lowercase.toList
    || containsText lowercase "-----begin private key-----"
    || containsText lowercase "github_pat_"

/-! ## Evaluating the tests

The kernel is quick to encode a literal and slow to decode it, so the tests are also
made on the bytes. -/

/-- A byte in lower case. -/
def lowerCode (byte : UInt8) : ℕ :=
  if 65 ≤ byte.toNat ∧ byte.toNat ≤ 90 then byte.toNat + 32 else byte.toNat

/-- The bytes of a text in lower case. -/
def lowerCodes (text : String) : List ℕ := text.toByteArray.data.toList.map lowerCode

/-- Whether one of the parts is found in the bytes in lower case. -/
def findsCode (parts : List (List ℕ)) (text : String) : Bool :=
  (lowerCodes text).tails.any fun rest => parts.any fun part => part.isPrefixOf rest

theorem lowerCodes_eq (text : String) :
    lowerCodes text = text.toList.flatMap fun c => (String.utf8EncodeChar c).map lowerCode := by
  rw [lowerCodes, ← String.utf8Encode_toList, List.utf8Encode, List.data_toByteArray,
    List.map_flatMap]

/-- Only the letters of ASCII change in lower case. -/
theorem map_lowerCode_utf8EncodeChar (c : Char) :
    (String.utf8EncodeChar (if 'A' ≤ c && c ≤ 'Z' then Char.ofNat (c.toNat + 32) else c)).map
        UInt8.toNat
      = (String.utf8EncodeChar c).map lowerCode := by
  have hupper : ('A' ≤ c && c ≤ 'Z') = true ↔ 65 ≤ c.toNat ∧ c.toNat ≤ 90 := by
    simp only [Bool.and_eq_true, decide_eq_true_eq, Char.le_def, UInt32.le_iff_toNat_le]
    rfl
  simp only [hupper]
  split_ifs with h
  · have hvalid : (c.toNat + 32).isValidChar := by
      left
      omega
    have hlower : (Char.ofNat (c.toNat + 32)).val.toNat = c.toNat + 32 := by
      rw [Char.ofNat, dif_pos hvalid]
      rfl
    have hcode : c.val.toNat = c.toNat := rfl
    simp only [String.utf8EncodeChar, hlower, hcode]
    rw [if_pos (by omega), if_pos (by omega)]
    simp only [List.map_cons, List.map_nil, lowerCode, UInt8.toNat_ofNat']
    rw [Nat.mod_eq_of_lt (by omega), Nat.mod_eq_of_lt (by omega), if_pos h]
  · have hcode : c.val.toNat = c.toNat := rfl
    have hbyte (n : ℕ) (hn : n < 256) (hlower : ¬ (65 ≤ n ∧ n ≤ 90)) :
        lowerCode (UInt8.ofNat n) = (UInt8.ofNat n).toNat := by
      rw [lowerCode, UInt8.toNat_ofNat', Nat.mod_eq_of_lt hn, if_neg hlower]
    simp only [String.utf8EncodeChar, hcode]
    split_ifs
    all_goals
      simp only [List.map_cons, List.map_nil]
      repeat rw [hbyte _ (by omega) (by omega)]

/-- `SENSITIVE_KEY_FRAGMENTS` as codes. -/
def sensitiveCodes : List (List ℕ) :=
  [[97, 99, 99, 101, 115, 115, 95, 116, 111, 107, 101, 110],
    [114, 101, 102, 114, 101, 115, 104, 95, 116, 111, 107, 101, 110],
    [97, 117, 116, 104, 111, 114, 105, 122, 97, 116, 105, 111, 110],
    [97, 112, 105, 95, 107, 101, 121], [115, 101, 99, 114, 101, 116],
    [112, 97, 115, 115, 119, 111, 114, 100], [99, 114, 101, 100, 101, 110, 116, 105, 97, 108],
    [107, 101, 121, 114, 105, 110, 103],
    [101, 120, 101, 99, 117, 116, 105, 111, 110, 95, 104, 97, 110, 100, 108, 101],
    [118, 101, 110, 100, 111, 114, 95, 104, 111, 109, 101],
    [115, 116, 97, 116, 101, 95, 100, 105, 114], [116, 111, 107, 101, 110, 95, 102, 105, 108, 101]]

theorem lowerCodes_fragments :
    sensitiveKeyFragments.map (fun fragment => fragment.toByteArray.data.toList.map UInt8.toNat)
      = sensitiveCodes := by
  decide +kernel

/-- Where a part is found in the text in lower case, its bytes are found in the bytes. -/
theorem infix_lowerCodes {value part : String} (h : containsText (toAsciiLowercase value) part) :
    ∃ rest, rest <:+ lowerCodes value ∧ part.toByteArray.data.toList.map UInt8.toNat <+: rest := by
  simp only [containsText, List.any_eq_true, List.mem_tails, List.isPrefixOf_iff_prefix] at h
  obtain ⟨_, ⟨start, hvalue⟩, ⟨rest, rfl⟩⟩ := h
  have hcodes (cs : List Char) : (List.utf8Encode cs).data.toList.map UInt8.toNat
      = cs.flatMap fun c => (String.utf8EncodeChar c).map UInt8.toNat := by
    rw [List.utf8Encode, List.data_toByteArray, List.map_flatMap]
  have hlower : lowerCodes value
      = (List.utf8Encode (toAsciiLowercase value).toList).data.toList.map UInt8.toNat := by
    rw [hcodes, lowerCodes_eq, toAsciiLowercase, String.toList_map, List.flatMap_map]
    exact List.flatMap_congr fun c _ => (map_lowerCode_utf8EncodeChar c).symm
  rw [hlower, ← hvalue, ← String.utf8Encode_toList]
  simp only [hcodes, List.flatMap_append]
  exact ⟨_, List.suffix_append _ _, List.prefix_append _ _⟩

/-- A part that is found is found by the search on bytes. -/
theorem not_containsText_of_codes {parts : List String} {codes : List (List ℕ)} {value : String}
    (hcodes : parts.map (fun part => part.toByteArray.data.toList.map UInt8.toNat) = codes)
    (h : findsCode codes value = false) :
    ∀ part ∈ parts, ¬ containsText (toAsciiLowercase value) part := by
  intro part hpart hcontains
  rw [Bool.eq_false_iff] at h
  apply h
  obtain ⟨rest, hrest, hstart⟩ := infix_lowerCodes hcontains
  simp only [findsCode, List.any_eq_true, List.mem_tails, ← hcodes, List.mem_map,
    exists_exists_and_eq_and, List.isPrefixOf_iff_prefix]
  exact ⟨rest, hrest, part, hpart, hstart⟩

theorem not_isSensitiveKey {key : String} (h : findsCode sensitiveCodes key = false) :
    ¬ isSensitiveKey key := by
  intro hsensitive
  obtain ⟨fragment, hfragment, hcontains⟩ := List.any_eq_true.mp hsensitive
  exact not_containsText_of_codes lowerCodes_fragments h fragment hfragment hcontains

/-- The texts that make a credential, as bytes. -/
def credentialCodes : List (List ℕ) :=
  [[98, 101, 97, 114, 101, 114, 32],
    [45, 45, 45, 45, 45, 98, 101, 103, 105, 110, 32, 112, 114, 105, 118, 97, 116, 101, 32, 107, 101,
      121, 45, 45, 45, 45, 45],
    [103, 105, 116, 104, 117, 98, 95, 112, 97, 116, 95]]

theorem not_isCredentialShaped_of_codes {value : String}
    (h : findsCode credentialCodes value = false) : ¬ isCredentialShaped value := by
  have hcodes : ["bearer ", "-----begin private key-----", "github_pat_"].map
      (fun part => part.toByteArray.data.toList.map UInt8.toNat) = credentialCodes := by decide
  have hparts := not_containsText_of_codes hcodes h
  simp only [List.forall_mem_cons] at hparts
  obtain ⟨hbearer, hkey, htoken, -⟩ := hparts
  intro hshaped
  simp only [isCredentialShaped, Bool.or_eq_true] at hshaped
  rcases hshaped with (hstart | hpart) | hpart
  · exact hbearer (List.any_eq_true.mpr ⟨_, by simp, hstart⟩)
  · exact hkey hpart
  · exact htoken hpart

theorem mem_of_containsText {value part : String} (h : containsText value part) {c : Char}
    (hc : c ∈ part.toList) : c ∈ value.toList := by
  simp only [containsText, List.any_eq_true, List.mem_tails] at h
  obtain ⟨rest, hrest, hstart⟩ := h
  exact hrest.subset ((List.isPrefixOf_iff_prefix.mp hstart).subset hc)

/-- Lower case does not make a character below `a` that is not a letter. -/
theorem mem_toAsciiLowercase {value : String} {d : Char} (hlower : d.toNat < 97)
    (h : d ∈ (toAsciiLowercase value).toList) : d ∈ value.toList := by
  rw [toAsciiLowercase, String.toList_map] at h
  obtain ⟨c, hc, hcd⟩ := List.mem_map.mp h
  split_ifs at hcd with hupper
  · simp only [Bool.and_eq_true, decide_eq_true_eq, Char.le_def] at hupper
    have hlow : 65 ≤ c.toNat := hupper.1
    have hhigh : c.toNat ≤ 90 := hupper.2
    have hvalid : (c.toNat + 32).isValidChar := by
      left
      omega
    have hnat : (Char.ofNat (c.toNat + 32)).toNat = c.toNat + 32 := by
      rw [Char.ofNat, dif_pos hvalid]
      rfl
    rw [hcd] at hnat
    omega
  · exact hcd ▸ hc

/-- Every text that looks like a credential has a blank or a `_`. -/
theorem not_isCredentialShaped {value : String}
    (h : ∀ c ∈ value.toList, c ≠ ' ' ∧ c ≠ '_') : ¬ isCredentialShaped value := by
  intro hshaped
  simp only [isCredentialShaped, Bool.or_eq_true] at hshaped
  rcases hshaped with (hbearer | hkey) | htoken
  · have hmem : ' ' ∈ (toAsciiLowercase value).toList :=
      (List.isPrefixOf_iff_prefix.mp hbearer).subset (by decide)
    exact (h _ (mem_toAsciiLowercase (by decide) hmem)).1 rfl
  · have hmem : ' ' ∈ (toAsciiLowercase value).toList := mem_of_containsText hkey (by decide)
    exact (h _ (mem_toAsciiLowercase (by decide) hmem)).1 rfl
  · have hmem : '_' ∈ (toAsciiLowercase value).toList := mem_of_containsText htoken (by decide)
    exact (h _ (mem_toAsciiLowercase (by decide) hmem)).2 rfl

mutual

/-- `inspect` (security.rs:111-148). -/
def inspect (path : String) : Json → Result Unit
  | .obj fields => inspectFields path fields
  | .arr items => inspectItems path 0 items
  | .str value => failIf (isCredentialShaped value)
      (.validation s!"portable evidence contains credential-shaped value at {path}")
  | .null | .bool _ | .num _ _ => .ok ()

/-- The loop over an object's entries. -/
def inspectFields (path : String) : List (String × Json) → Result Unit
  | [] => .ok ()
  | (key, child) :: rest => do
    failIf (isSensitiveKey key)
      (.validation s!"portable evidence contains forbidden sensitive field at {path}.{key}")
    inspect s!"{path}.{key}" child
    inspectFields path rest

/-- The loop over an array's elements. -/
def inspectItems (path : String) (index : ℕ) : List Json → Result Unit
  | [] => .ok ()
  | child :: rest => do
    inspect s!"{path}[{index}]" child
    inspectItems path (index + 1) rest

end

/-- `reject_sensitive_fields` (security.rs:107-109). -/
def rejectSensitiveFields (value : Json) : Result Unit := inspect "$" value

mutual

/-- The keys of every object within a value. -/
def Json.keys : Json → List String
  | .obj fields => fieldKeys fields
  | .arr items => itemKeys items
  | .null | .bool _ | .num _ _ | .str _ => []

def Json.fieldKeys : List (String × Json) → List String
  | [] => []
  | (key, child) :: rest => key :: (child.keys ++ fieldKeys rest)

def Json.itemKeys : List Json → List String
  | [] => []
  | child :: rest => child.keys ++ itemKeys rest

end

mutual

/-- The strings within a value, at any depth. -/
def Json.strings : Json → List String
  | .obj fields => fieldStrings fields
  | .arr items => itemStrings items
  | .str value => [value]
  | .null | .bool _ | .num _ _ => []

def Json.fieldStrings : List (String × Json) → List String
  | [] => []
  | (_, child) :: rest => child.strings ++ fieldStrings rest

def Json.itemStrings : List Json → List String
  | [] => []
  | child :: rest => child.strings ++ itemStrings rest

end

theorem Json.itemKeys_map_str (values : List String) : Json.itemKeys (values.map .str) = [] := by
  induction values with
  | nil => rfl
  | cons value rest ih => exact ih

theorem Json.itemStrings_map_str (values : List String) :
    Json.itemStrings (values.map .str) = values := by
  induction values with
  | nil => rfl
  | cons value rest ih => exact congrArg (value :: ·) ih

mutual

theorem inspect_eq_ok_iff (path : String) (value : Json) :
    inspect path value = .ok () ↔
      (∀ key ∈ value.keys, ¬ isSensitiveKey key)
        ∧ ∀ text ∈ value.strings, ¬ isCredentialShaped text := by
  cases value with
  | null | bool _ | num _ _ => simp [inspect, Json.keys, Json.strings]
  | str text => simp [inspect, Json.keys, Json.strings]
  | arr items => exact inspectItems_eq_ok_iff path 0 items
  | obj fields => exact inspectFields_eq_ok_iff path fields

theorem inspectFields_eq_ok_iff (path : String) (fields : List (String × Json)) :
    inspectFields path fields = .ok () ↔
      (∀ key ∈ Json.fieldKeys fields, ¬ isSensitiveKey key)
        ∧ ∀ text ∈ Json.fieldStrings fields, ¬ isCredentialShaped text := by
  cases fields with
  | nil => simp [inspectFields, Json.fieldKeys, Json.fieldStrings]
  | cons field rest =>
    obtain ⟨key, child⟩ := field
    simp only [inspectFields, seq_eq_ok_iff, failIf_eq_ok_iff,
      inspect_eq_ok_iff _ child, inspectFields_eq_ok_iff _ rest, Json.fieldKeys,
      Json.fieldStrings, List.forall_mem_cons, List.forall_mem_append]
    tauto

theorem inspectItems_eq_ok_iff (path : String) (index : ℕ) (items : List Json) :
    inspectItems path index items = .ok () ↔
      (∀ key ∈ Json.itemKeys items, ¬ isSensitiveKey key)
        ∧ ∀ text ∈ Json.itemStrings items, ¬ isCredentialShaped text := by
  cases items with
  | nil => simp [inspectItems, Json.itemKeys, Json.itemStrings]
  | cons child rest =>
    simp only [inspectItems, seq_eq_ok_iff, inspect_eq_ok_iff _ child,
      inspectItems_eq_ok_iff _ _ rest, Json.itemKeys, Json.itemStrings, List.forall_mem_append]
    tauto

end

/-- A value passes exactly when no key in it is sensitive and no string in it is
    shaped like a credential, at any depth. -/
theorem rejectSensitiveFields_eq_ok_iff (value : Json) :
    rejectSensitiveFields value = .ok () ↔
      (∀ key ∈ value.keys, ¬ isSensitiveKey key)
        ∧ ∀ text ∈ value.strings, ¬ isCredentialShaped text :=
  inspect_eq_ok_iff "$" value

/-! ## Events -/

/-- `AuditEventContent` (audit.rs:16-36). -/
structure AuditEventContent where
  (id tenantId : Uuid)
  (workItemId attemptId : Option Uuid)
  (actorType actorId action subjectType subjectId correlationId : String)
  (traceId policyDigest beforeDigest afterDigest previousEventHash : Option String)
  details : Json
  occurredAt : DateTime
deriving DecidableEq

/-- `validate_content` (audit.rs:206-237). -/
def AuditEventContent.validate (content : AuditEventContent) : Result Unit := do
  [("actor type", content.actorType), ("actor ID", content.actorId), ("action", content.action),
    ("subject type", content.subjectType), ("subject ID", content.subjectId),
    ("correlation ID", content.correlationId)].forM fun (name, value) =>
      failIf (isBlank value) (.validation s!"audit event {name} must be non-empty")
  [content.policyDigest, content.beforeDigest, content.afterDigest,
    content.previousEventHash].reduceOption.forM fun digest =>
      failIf (!isDigestText digest) (.validation "audit digest fields must use lowercase sha256")
  rejectSensitiveFields content.details

/-- `HashedAuditEvent` (audit.rs:40-43). -/
structure HashedAuditEvent where
  content : AuditEventContent
  eventHash : String
deriving DecidableEq

namespace HashedAuditEvent

variable (digest : AuditEventContent → Result String)

/-- `HashedAuditEvent::create` (audit.rs:46-53); `digest` is `sha256_digest` of
    `canonical_json`. -/
def create (content : AuditEventContent) : Result HashedAuditEvent := do
  content.validate
  let eventHash ← digest content
  return { content, eventHash }

/-- `HashedAuditEvent::verify` (audit.rs:55-61). -/
def verify (event : HashedAuditEvent) : Result Unit := do
  event.content.validate
  let hash ← digest event.content
  failIf (hash ≠ event.eventHash) (.crypto "audit event hash mismatch")

end HashedAuditEvent
end Asf
