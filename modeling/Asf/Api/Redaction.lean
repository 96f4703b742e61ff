import Asf.Audit.Event

/-!
# Redaction of responses (`src/api/postgres.rs`)

`redact_sensitive` replaces what `reject_sensitive_fields` of `src/security.rs` refuses.
The two walk a document separately, each with its own list of patterns.

Results:

* `redactSensitive_eq_self_iff`: redaction leaves a document alone exactly if its
  sensitive members are markers already and no text in it is a credential.
* `redaction_agrees`: what is not refused is not changed; redaction is idempotent and
  leaves nothing that it would replace.
-/

namespace Asf

mutual

/-- The members of every object within a value, at any depth. -/
def Json.members : Json → List (String × Json)
  | .obj fields => fieldMembers fields
  | .arr items => itemMembers items
  | .null | .bool _ | .num _ _ | .str _ => []

def Json.fieldMembers : List (String × Json) → List (String × Json)
  | [] => []
  | (key, child) :: rest => (key, child) :: (child.members ++ fieldMembers rest)

def Json.itemMembers : List Json → List (String × Json)
  | [] => []
  | child :: rest => child.members ++ itemMembers rest

end

mutual

theorem Json.map_fst_members (value : Json) : value.members.map Prod.fst = value.keys := by
  cases value with
  | null | bool _ | num _ _ | str _ => rfl
  | arr items => exact map_fst_itemMembers items
  | obj fields => exact map_fst_fieldMembers fields

theorem Json.map_fst_fieldMembers (fields : List (String × Json)) :
    (fieldMembers fields).map Prod.fst = fieldKeys fields := by
  cases fields with
  | nil => rfl
  | cons field rest =>
    obtain ⟨key, child⟩ := field
    rw [fieldMembers, fieldKeys, List.map_cons, List.map_append, map_fst_members child,
      map_fst_fieldMembers rest]

theorem Json.map_fst_itemMembers (items : List Json) :
    (itemMembers items).map Prod.fst = itemKeys items := by
  cases items with
  | nil => rfl
  | cons child rest =>
    rw [itemMembers, itemKeys, List.map_append, map_fst_members child, map_fst_itemMembers rest]

end

namespace Api

/-! ## The walk -/

/-- `FRAGMENTS` (postgres.rs:4122-4135). -/
def redactedFragments : List String :=
  ["access_token", "refresh_token", "authorization", "api_key", "secret", "password",
    "credential", "keyring", "execution_handle", "vendor_home", "state_dir", "token_file"]

/-- The key test (postgres.rs:4139-4143). -/
def isRedactedKey (key : String) : Bool :=
  redactedFragments.any fun fragment => containsText (toAsciiLowercase key) fragment

/-- The text test (postgres.rs:4156-4160). -/
def isRedactedText (text : String) : Bool :=
  let normalized := toAsciiLowercase text
  "bearer ".toList.isPrefixOf normalized.toList
    || containsText normalized "-----begin private key-----"
    || containsText normalized "github_pat_"

def redactionMarker : Json := .str "[REDACTED]"

mutual

/-- `redact_sensitive` (postgres.rs:4121-4166). -/
def redactSensitive : Json → Json
  | .obj fields => .obj (redactFields fields)
  | .arr items => .arr (redactItems items)
  | .str text => if isRedactedText text then redactionMarker else .str text
  | .null => .null
  | .bool b => .bool b
  | .num m e => .num m e

/-- The loop over an object's entries. -/
def redactFields : List (String × Json) → List (String × Json)
  | [] => []
  | (key, child) :: rest =>
    (key, if isRedactedKey key then redactionMarker else redactSensitive child) :: redactFields rest

/-- The loop over an array's elements. -/
def redactItems : List Json → List Json
  | [] => []
  | child :: rest => redactSensitive child :: redactItems rest

end

/-- `redacted_text` (postgres.rs:4168-4175), whose `expect` is on a text. -/
def redactedText (value : String) : String := ((redactSensitive (.str value)).asStr).getD ""

/-! ## What the two walks test -/

theorem isRedactedText_eq : isRedactedText = isCredentialShaped := rfl

theorem not_isRedactedText_marker : isRedactedText "[REDACTED]" = false := by decide +kernel

/-! ## What redaction leaves -/

/-- A member under a sensitive key is the marker. -/
def Marked (member : String × Json) : Prop := isSensitiveKey member.1 → member.2 = redactionMarker

/-- Every member under a sensitive key is the marker and no text is a credential. -/
structure Redacted (value : Json) : Prop where
  members : ∀ member ∈ value.members, Marked member
  strings : ∀ text ∈ value.strings, ¬ isCredentialShaped text

theorem redacted_marker : Redacted redactionMarker where
  members _ hmember := absurd hmember List.not_mem_nil
  strings text htext := by
    rw [List.mem_singleton.mp htext, ← isRedactedText_eq, not_isRedactedText_marker]
    exact Bool.false_ne_true

mutual

theorem redacted_redactSensitive (value : Json) : Redacted (redactSensitive value) := by
  cases value with
  | null | bool _ | num _ _ => exact ⟨nofun, nofun⟩
  | str text =>
    rw [redactSensitive]
    split_ifs with htext
    · exact redacted_marker
    · exact ⟨nofun, fun text' htext' => List.mem_singleton.mp htext' ▸ htext⟩
  | arr items => exact ⟨(redacted_redactItems items).1, (redacted_redactItems items).2⟩
  | obj fields => exact ⟨(redacted_redactFields fields).1, (redacted_redactFields fields).2⟩

theorem redacted_redactFields (fields : List (String × Json)) :
    (∀ member ∈ Json.fieldMembers (redactFields fields), Marked member)
      ∧ ∀ text ∈ Json.fieldStrings (redactFields fields), ¬ isCredentialShaped text := by
  cases fields with
  | nil => exact ⟨nofun, nofun⟩
  | cons field rest =>
    obtain ⟨key, child⟩ := field
    have hrest := redacted_redactFields rest
    have hchild : Redacted
        (if isRedactedKey key then redactionMarker else redactSensitive child) := by
      split_ifs with hkey
      · exact redacted_marker
      · exact redacted_redactSensitive child
    have hmarked : Marked
        (key, if isRedactedKey key then redactionMarker else redactSensitive child) :=
      fun hkey => if_pos hkey
    simp only [redactFields, Json.fieldMembers, Json.fieldStrings, List.forall_mem_cons,
      List.forall_mem_append]
    exact ⟨⟨hmarked, hchild.members, hrest.1⟩, hchild.strings, hrest.2⟩

theorem redacted_redactItems (items : List Json) :
    (∀ member ∈ Json.itemMembers (redactItems items), Marked member)
      ∧ ∀ text ∈ Json.itemStrings (redactItems items), ¬ isCredentialShaped text := by
  cases items with
  | nil => exact ⟨nofun, nofun⟩
  | cons child rest =>
    have hchild := redacted_redactSensitive child
    have hrest := redacted_redactItems rest
    simp only [redactItems, Json.itemMembers, Json.itemStrings, List.forall_mem_append]
    exact ⟨⟨hchild.members, hrest.1⟩, hchild.strings, hrest.2⟩

end

/-! ## What redaction leaves alone -/

mutual

theorem redactSensitive_eq_self (value : Json) (hmembers : ∀ member ∈ value.members, Marked member)
    (hstrings : ∀ text ∈ value.strings, ¬ isCredentialShaped text) :
    redactSensitive value = value := by
  cases value with
  | null | bool _ | num _ _ => rfl
  | str text =>
    rw [redactSensitive]
    exact if_neg (hstrings text (List.mem_singleton.mpr rfl))
  | arr items =>
    rw [redactSensitive, redactItems_eq_self items hmembers hstrings]
  | obj fields =>
    rw [redactSensitive, redactFields_eq_self fields hmembers hstrings]

theorem redactFields_eq_self (fields : List (String × Json))
    (hmembers : ∀ member ∈ Json.fieldMembers fields, Marked member)
    (hstrings : ∀ text ∈ Json.fieldStrings fields, ¬ isCredentialShaped text) :
    redactFields fields = fields := by
  cases fields with
  | nil => rfl
  | cons field rest =>
    obtain ⟨key, child⟩ := field
    simp only [Json.fieldMembers, Json.fieldStrings, List.forall_mem_cons,
      List.forall_mem_append] at hmembers hstrings
    obtain ⟨hmarked, hchild, hrest⟩ := hmembers
    have hsame : (if isRedactedKey key then redactionMarker else redactSensitive child)
        = child := by
      split_ifs with hkey
      · exact (hmarked hkey).symm
      · exact redactSensitive_eq_self child hchild hstrings.1
    rw [redactFields, hsame, redactFields_eq_self rest hrest hstrings.2]

theorem redactItems_eq_self (items : List Json)
    (hmembers : ∀ member ∈ Json.itemMembers items, Marked member)
    (hstrings : ∀ text ∈ Json.itemStrings items, ¬ isCredentialShaped text) :
    redactItems items = items := by
  cases items with
  | nil => rfl
  | cons child rest =>
    simp only [Json.itemMembers, Json.itemStrings, List.forall_mem_append] at hmembers hstrings
    rw [redactItems, redactSensitive_eq_self child hmembers.1 hstrings.1,
      redactItems_eq_self rest hmembers.2 hstrings.2]

end

theorem redactSensitive_eq_self_iff {value : Json} :
    redactSensitive value = value ↔ Redacted value := by
  constructor
  · intro hsame
    exact hsame ▸ redacted_redactSensitive value
  · intro h
    exact redactSensitive_eq_self value h.members h.strings

/-- What is not refused has nothing to redact. -/
theorem Redacted.of_rejectSensitiveFields {value : Json}
    (h : rejectSensitiveFields value = .ok ()) : Redacted value := by
  obtain ⟨hkeys, hstrings⟩ := (rejectSensitiveFields_eq_ok_iff value).mp h
  refine ⟨fun member hmember hkey => ?_, hstrings⟩
  have hmem : member.1 ∈ value.keys := value.map_fst_members ▸ List.mem_map_of_mem hmember
  exact absurd hkey (hkeys member.1 hmem)

/-- A document is not refused exactly if no key in it has a sensitive part, in either case,
    and no text in it is a credential. Such a document is not changed by redaction, and
    redacting twice is redacting once. In what is redacted no text is a credential and the
    marker stands under every sensitive key. -/
theorem redaction_agrees (value : Json) :
    (rejectSensitiveFields value = .ok () ↔
        (∀ key ∈ value.keys, ∀ fragment ∈ sensitiveKeyFragments,
          ¬ containsText (toAsciiLowercase key) fragment)
        ∧ ∀ text ∈ value.strings, ¬ isCredentialShaped text)
      ∧ (rejectSensitiveFields value = .ok () → redactSensitive value = value)
      ∧ redactSensitive (redactSensitive value) = redactSensitive value
      ∧ (∀ text ∈ (redactSensitive value).strings, ¬ isCredentialShaped text)
      ∧ ∀ member ∈ (redactSensitive value).members,
          isSensitiveKey member.1 → member.2 = .str "[REDACTED]" := by
  have hredacted := redacted_redactSensitive value
  refine ⟨?_, ?_, ?_, hredacted.strings, hredacted.members⟩
  · simp [rejectSensitiveFields_eq_ok_iff, isSensitiveKey]
  · intro h
    exact redactSensitive_eq_self_iff.mpr (.of_rejectSensitiveFields h)
  · exact redactSensitive_eq_self_iff.mpr hredacted

namespace RedactionSample

def document : Json := .obj [("state", .str "ACCEPTED"),
  ("worker", .obj [("API_KEY", .num 7 0), ("notes", .arr [.str "Bearer abc"])])]

end RedactionSample

section

open RedactionSample

theorem redaction_agrees_sample :
    redactSensitive (.obj [("state", .str "ACCEPTED")]) = .obj [("state", .str "ACCEPTED")]
      ∧ redactSensitive document = .obj [("state", .str "ACCEPTED"),
          ("worker", .obj [("API_KEY", .str "[REDACTED]"), ("notes", .arr [.str "[REDACTED]"])])]
      ∧ (("API_KEY", .num 7 0) : String × Json) ∉ (redactSensitive document).members := by
  have hredacted := (redaction_agrees document).2.2.2.2
  refine ⟨(redaction_agrees _).2.1 (by decide +kernel), by decide +kernel, fun hmember => ?_⟩
  exact absurd (hredacted _ hmember (by decide +kernel)) nofun

end

end Api
end Asf
