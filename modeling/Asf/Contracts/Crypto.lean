import Asf.Contracts.RunmillWorkOrder
import Asf.Lib.Base64
import Asf.Lib.Sha256

/-!
# Digests and signatures (`src/crypto.rs`)

`Primitives` is what the contracts take from other crates: canonical JSON,
SHA-256, Ed25519, chrono and url. Base64 is `Lib.Base64`.

`Ideal` states what is assumed of the cryptography where a result speaks of who
signed a document.

Results:

* `verifySignature_eq_ok_iff`: which signature texts are accepted.
* `isSha256Digest_sha256Digest`, `sha256Digest_not_credentialShaped`: a digest has
  the form that is checked, and the filter of sensitive texts lets it pass.
-/

namespace Asf.Contracts

open Lib
open String (ofList toList_ofList toList_append)

/-! ## What is taken from other crates -/

/-- A sequence of `n` bytes: `[u8; n]`. -/
abbrev Block (n : ℕ) := { bytes : List UInt8 // bytes.length = n }

/-- `ed25519_dalek::VerifyingKey`: the bytes of a point. -/
structure VerifyingKey where
  bytes : Block 32
deriving DecidableEq

/-- What the checks read of a parsed `url::Url`. -/
structure PublicUrl extends Authority.Url where
  (query fragment : Option String)
deriving DecidableEq

/-- The functions of `serde_jcs`, `sha2`, `ed25519_dalek`, chrono, url and the
    printing of floats. -/
structure Primitives where
  /-- `serde_jcs::to_vec`. -/
  jcs : Json → Except String (List UInt8)
  /-- `Sha256::digest`. -/
  sha256 : List UInt8 → Block 32
  /-- Whether `VerifyingKey::from_bytes` takes the bytes. -/
  isPoint : Block 32 → Bool
  /-- `key.verify(message, &signature).is_ok()`. -/
  verify : VerifyingKey → List UInt8 → Block 64 → Bool
  /-- What base64 and ed25519 report for bytes they do not take. -/
  reported : String → String
  /-- `DateTime::parse_from_rfc3339(text)` as an instant. -/
  parseRfc3339 : String → Option DateTime
  /-- `text.parse::<DateTime<Utc>>()`. -/
  parseUtc : String → Option DateTime
  /-- How serde writes a `DateTime<Utc>`. -/
  timeText : DateTime → String
  /-- `Url::parse`. -/
  parseUrl : String → Except String PublicUrl
  /-- The digits and the scale that are printed for an `f64`. -/
  writeF64 : F64 → ℤ × ℕ
  /-- `Value::as_f64` of a number. -/
  readF64 : ℤ → ℕ → F64

namespace Primitives

/-- `Url::parse` where only the endpoint is read. -/
def parseEndpoint (p : Primitives) (text : String) : Except String Authority.Url :=
  (p.parseUrl text).map PublicUrl.toUrl

end Primitives

/-! ## `crypto.rs` -/

/-- `hex::encode`. -/
def hexText (bytes : List UInt8) : List Char :=
  bytes.flatMap fun byte =>
    [Uuid.hexDigit (Fin.ofNat 16 (byte.toNat / 16)), Uuid.hexDigit (Fin.ofNat 16 byte.toNat)]

/-- `sha256_digest` (crypto.rs:12-15). -/
def sha256Digest (p : Primitives) (bytes : List UInt8) : String :=
  "sha256:" ++ ofList (hexText (p.sha256 bytes).val)

/-- `canonical_json` (crypto.rs:27-29), of the value that serde writes. -/
def canonicalJson (p : Primitives) (value : Json) : Result (List UInt8) :=
  (p.jcs value).mapError .serialization

/-- `Ed25519Signer` (crypto.rs:31-35). -/
structure Ed25519Signer where
  keyId : String
  /-- `signing_key.verifying_key()`. -/
  verifyingKey : VerifyingKey
  /-- `signing_key.sign(message).to_bytes()`. -/
  signingKey : List UInt8 → Block 64

/-- `Ed25519Signer::sign` (crypto.rs:69-72). -/
def Ed25519Signer.sign (signer : Ed25519Signer) (message : List UInt8) : String :=
  Base64.encode (signer.signingKey message).val

/-- `decode_verifying_key` (crypto.rs:97-107). -/
def decodeVerifyingKey (p : Primitives) (encoded : String) : Result VerifyingKey :=
  match Base64.decode encoded with
  | none => .error (.crypto s!"invalid verifying key: {p.reported encoded}")
  | some decoded =>
    if h : decoded.length = 32 then
      if p.isPoint ⟨decoded, h⟩ then .ok ⟨decoded, h⟩
      else .error (.crypto s!"invalid Ed25519 verifying key: {p.reported encoded}")
    else .error (.crypto "Ed25519 verifying key must be 32 bytes")

/-- `verify_signature` (crypto.rs:109-117). -/
def verifySignature (p : Primitives) (key : VerifyingKey) (message : List UInt8)
    (encoded : String) : Result Unit :=
  match Base64.decode encoded with
  | none => .error (.crypto s!"invalid signature encoding: {p.reported encoded}")
  | some decoded =>
    if h : decoded.length = 64 then
      failIf (¬ p.verify key message ⟨decoded, h⟩) (.crypto "signature does not match")
    else .error (.crypto s!"invalid signature: {p.reported encoded}")

/-- `domain_separated_message` (crypto.rs:128-134). -/
def domainSeparatedMessage (domain : String) (message : List UInt8) : List UInt8 :=
  bytes domain ++ 0 :: message

/-- `Ed25519Signer::sign_domain` (crypto.rs:74-78). -/
def Ed25519Signer.signDomain (signer : Ed25519Signer) (domain : String) (message : List UInt8) :
    String :=
  signer.sign (domainSeparatedMessage domain message)

/-- `verify_domain_signature` (crypto.rs:119-126). -/
def verifyDomainSignature (p : Primitives) (key : VerifyingKey) (domain : String)
    (message : List UInt8) (encoded : String) : Result Unit :=
  verifySignature p key (domainSeparatedMessage domain message) encoded

section Signatures

variable {p : Primitives} {key : VerifyingKey} {message : List UInt8} {encoded : String}

theorem canonicalJson_eq_ok_iff {value : Json} {out : List UInt8} :
    canonicalJson p value = .ok out ↔ p.jcs value = .ok out := by
  unfold canonicalJson
  cases p.jcs value <;> simp [Except.mapError]

/-- The text of a point is read as that point. -/
theorem decodeVerifyingKey_encode (h : p.isPoint key.bytes) :
    decodeVerifyingKey p (Base64.encode key.bytes.val) = .ok key := by
  simp [decodeVerifyingKey, Base64.decode_encode, key.bytes.property, h]

/-- An accepted text decodes to a signature that verifies. -/
theorem verifySignature_eq_ok_iff :
    verifySignature p key message encoded = .ok () ↔
      ∃ signature : Block 64, Base64.decode encoded = some signature.val
        ∧ p.verify key message signature := by
  unfold verifySignature
  split
  · rename_i hdecode
    simp [hdecode]
  · rename_i decoded hdecode
    split_ifs with hlength
    · rw [failIf_eq_ok_iff, not_not, hdecode]
      constructor
      · intro hverify
        exact ⟨⟨decoded, hlength⟩, rfl, hverify⟩
      · rintro ⟨signature, hsome, hverify⟩
        have heq : signature = ⟨decoded, hlength⟩ := Subtype.ext (Option.some.inj hsome).symm
        rwa [heq] at hverify
    · constructor
      · intro h
        exact nomatch h
      · rintro ⟨signature, hsome, -⟩
        rw [hdecode] at hsome
        rw [Option.some.inj hsome] at hlength
        exact absurd signature.property hlength

/-- A signature verifies under the key of its signer. -/
theorem verifySignature_sign {signer : Ed25519Signer}
    (h : p.verify signer.verifyingKey message (signer.signingKey message)) :
    verifySignature p signer.verifyingKey message (signer.sign message) = .ok () :=
  verifySignature_eq_ok_iff.mpr ⟨signer.signingKey message, Base64.decode_encode _, h⟩

end Signatures

/-! ## The form of a digest -/

theorem length_hexText (l : List UInt8) : (hexText l).length = 2 * l.length := by
  simp [hexText, List.length_flatMap, Nat.mul_comm]

/-- What holds of every hexadecimal digit holds of every character. -/
theorem forall_mem_hexText {P : Char → Prop} (h : ∀ d, P (Uuid.hexDigit d)) (l : List UInt8) :
    ∀ c ∈ hexText l, P c := by
  intro c hc
  obtain ⟨byte, -, hdigits⟩ := List.mem_flatMap.mp hc
  simp only [List.mem_cons, List.not_mem_nil, or_false] at hdigits
  rcases hdigits with rfl | rfl
  · exact h _
  · exact h _

theorem bytes_hexText (l : List UInt8) :
    (bytes (ofList (hexText l))).length = 2 * l.length
      ∧ ∀ byte ∈ bytes (ofList (hexText l)), isLowerHexByte byte := by
  have hlength : ∀ c ∈ hexText l, (String.utf8EncodeChar c).length = 1 :=
    forall_mem_hexText (by decide) l
  have hhex : ∀ c ∈ hexText l, (String.utf8EncodeChar c).all isLowerHexByte :=
    forall_mem_hexText (by decide) l
  rw [bytes, toList_ofList, List.length_flatMap, List.map_congr_left hlength]
  refine ⟨by simp [length_hexText], fun byte hbyte => ?_⟩
  obtain ⟨c, hc, hbyte⟩ := List.mem_flatMap.mp hbyte
  exact List.all_eq_true.mp (hhex c hc) byte hbyte

theorem isSha256Digest_hexText {l : List UInt8} (h : l.length = 32) :
    isSha256Digest ("sha256:" ++ ofList (hexText l)) := by
  obtain ⟨hlength, hhex⟩ := bytes_hexText l
  rw [h] at hlength
  generalize ofList (hexText l) = hex at hlength hhex
  have hdrop : (bytes ("sha256:" ++ hex)).drop 7 = bytes hex := by
    have hstart : (bytes "sha256:").length = 7 := by decide
    have happend : bytes ("sha256:" ++ hex) = bytes "sha256:" ++ bytes hex := by simp [bytes]
    rw [happend, ← hstart, List.drop_left]
  have hstart : startsWith ("sha256:" ++ hex) "sha256:" := by
    rw [startsWith, List.isPrefixOf_iff_prefix, toList_append]
    exact List.prefix_append _ _
  simp only [isSha256Digest, Bool.and_eq_true, beq_iff_eq, List.all_eq_true]
  rw [hdrop]
  exact ⟨⟨hstart, hlength⟩, hhex⟩

theorem isSha256Digest_sha256Digest (p : Primitives) (message : List UInt8) :
    isSha256Digest (sha256Digest p message) :=
  isSha256Digest_hexText (p.sha256 message).property

theorem matchesPattern_literal (literal : List Char) (ps : List (Char → Bool)) (cs : List Char) :
    matchesPattern (literal.map (fun d c => c == d) ++ ps) (literal ++ cs)
      = matchesPattern ps cs := by
  induction literal with
  | nil => rfl
  | cons d literal ih =>
    show (d == d && matchesPattern _ _) = _
    rw [beq_self_eq_true, Bool.true_and]
    exact ih

theorem matchesPattern_replicate {p : Char → Bool} {cs : List Char} (h : ∀ c ∈ cs, p c) :
    matchesPattern (List.replicate cs.length p) cs := by
  induction cs with
  | nil => rfl
  | cons c cs ih =>
    rw [List.forall_mem_cons] at h
    show (p c && matchesPattern (List.replicate cs.length p) cs) = true
    rw [h.1, Bool.true_and]
    exact ih h.2

/-- A digest also has the form that the ledger checks. -/
theorem isDigestText_sha256Digest (p : Primitives) (message : List UInt8) :
    isDigestText (sha256Digest p message) := by
  have h64 : (hexText (p.sha256 message).val).length = 64 := by
    rw [length_hexText, (p.sha256 message).property]
  rw [isDigestText, sha256Digest, toList_append, matchesPattern_literal, toList_ofList, ← h64]
  exact matchesPattern_replicate (forall_mem_hexText (by decide) _)

/-- Hexadecimal digits do not make a text look like a credential. -/
theorem hexText_not_credentialShaped {start : String}
    (h : ' ' ∉ start.toList ∧ '_' ∉ start.toList) (l : List UInt8) :
    ¬ isCredentialShaped (start ++ ofList (hexText l)) := by
  apply not_isCredentialShaped
  intro c hc
  rw [toList_append, toList_ofList, List.mem_append] at hc
  rcases hc with hc | hc
  · exact ⟨ne_of_mem_of_not_mem hc h.1, ne_of_mem_of_not_mem hc h.2⟩
  · exact forall_mem_hexText (P := fun c => c ≠ ' ' ∧ c ≠ '_') (by decide) l c hc

theorem sha256Digest_not_credentialShaped (p : Primitives) (message : List UInt8) :
    ¬ isCredentialShaped (sha256Digest p message) :=
  hexText_not_credentialShaped (by decide) (p.sha256 message).val

theorem hexText_injective : Function.Injective hexText := by
  intro l
  induction l with
  | nil =>
    intro l' h
    cases l' with
    | nil => rfl
    | cons b l' => cases h
  | cons a l ih =>
    intro l' h
    cases l' with
    | nil => cases h
    | cons b l' =>
      obtain ⟨hhigh, hlow, hrest⟩ : _ ∧ _ ∧ hexText l = hexText l' := by
        simpa only [hexText, List.flatMap_cons, List.cons_append, List.nil_append,
          List.cons.injEq] using h
      have hhigh := congrArg Fin.val (Uuid.hexDigit_injective hhigh)
      have hlow := congrArg Fin.val (Uuid.hexDigit_injective hlow)
      simp only [Fin.val_ofNat] at hhigh hlow
      have ha := a.toNat_lt
      have hb := b.toNat_lt
      have hab : a = b := UInt8.toNat_inj.mp (by omega)
      rw [hab, ih hrest]

/-! ## Ideal cryptography -/

/-- The digest of a document. -/
def documentDigest (p : Primitives) (value : Json) : Result String :=
  (canonicalJson p value).map (sha256Digest p)

/-- What is assumed of the cryptography: only the holder of a key signs under it, as
    told by `Signed`, and no two of the given documents have one digest. -/
structure Ideal (p : Primitives) (Signed : VerifyingKey → List UInt8 → Prop)
    (documents : Set Json) : Prop where
  unforgeable : ∀ key message signature, p.verify key message signature → Signed key message
  collisionFree : ∀ a ∈ documents, ∀ b ∈ documents, ∀ digest,
    documentDigest p a = .ok digest → documentDigest p b = .ok digest → a = b

theorem Ideal.signed {p : Primitives} {Signed : VerifyingKey → List UInt8 → Prop}
    {documents : Set Json} (h : Ideal p Signed documents) {key : VerifyingKey}
    {message : List UInt8} {encoded : String}
    (hverify : verifySignature p key message encoded = .ok ()) : Signed key message := by
  obtain ⟨signature, -, hsignature⟩ := verifySignature_eq_ok_iff.mp hverify
  exact h.unforgeable key message signature hsignature

/-! ## An instance -/

namespace Instance

/-- Instants and how they are written. -/
def instants : List (DateTime × String) :=
  [(⟨0⟩, "2000-01-01T00:00:00Z"), (⟨1000000000⟩, "2000-01-01T00:00:01Z"),
    (⟨2000000000⟩, "2000-01-01T00:00:02Z"), (⟨3000000000⟩, "2000-01-01T00:00:03Z")]

def timeText (instant : DateTime) : String :=
  ((instants.find? fun entry => entry.1 == instant).map Prod.snd).getD ""

def parseTime (text : String) : Option DateTime :=
  (instants.find? fun entry => entry.2 == text).map Prod.fst

/-- The hexadecimal digits of a digest as ASCII bytes. -/
def hexBytes (digest : List UInt8) : List UInt8 :=
  (hexText digest).map fun c => UInt8.ofNat c.toNat

theorem length_hexBytes (digest : List UInt8) : (hexBytes digest).length = 2 * digest.length := by
  rw [hexBytes, List.length_map, length_hexText]

/-- What stands for an Ed25519 signature: the digest of the key and the message. -/
def signature (key : VerifyingKey) (message : List UInt8) : Block 64 :=
  ⟨hexBytes (Sha256.digest (key.bytes.val ++ message)),
    by rw [length_hexBytes, Sha256.length_digest]⟩

def key : VerifyingKey := ⟨List.replicate 32 0, rfl⟩

/-- A signer with that key. -/
def signer (keyId : String) : Ed25519Signer where
  keyId := keyId
  verifyingKey := key
  signingKey := signature key

/-- The text of such a signature does not look like a credential. -/
theorem sign_not_credentialShaped {start : String}
    (h : ' ' ∉ start.toList ∧ '_' ∉ start.toList) (keyId : String) (message : List UInt8) :
    ¬ isCredentialShaped (start ++ (signer keyId).sign message) := by
  have hbytes : ∀ b ∈ (signature key message).val,
      b.toNat < 128 ∧ b.toNat % 16 < 15 ∧ b.toNat % 64 < 63 :=
    List.forall_mem_map.mpr (forall_mem_hexText (by decide) _)
  apply not_isCredentialShaped
  intro c hc
  rw [toList_append, List.mem_append] at hc
  rcases hc with hc | hc
  · exact ⟨ne_of_mem_of_not_mem hc h.1, ne_of_mem_of_not_mem hc h.2⟩
  · exact Base64.mem_encode_of_ascii hbytes c hc

/-- Canonical JSON and SHA-256 as they are, for ASCII keys and integers. The other
    functions are right where the instances below use them: times are those of
    `instants`, the only float is zero, and the only URL has no query. -/
def primitives : Primitives where
  jcs value := .ok (bytes (ofList value.canonicalText))
  sha256 message := ⟨Sha256.digest message, Sha256.length_digest message⟩
  isPoint _ := true
  verify key message text := text = signature key message
  reported text := text
  parseRfc3339 := parseTime
  parseUtc := parseTime
  timeText := timeText
  parseUrl _ := .error "relative URL without a base"
  writeF64 _ := (0, 0)
  readF64 _ _ := ⟨0⟩

end Instance

end Asf.Contracts
