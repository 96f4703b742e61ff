import Mathlib.Algebra.Group.Int.Defs
import Mathlib.Data.List.Lex
import Mathlib.Data.String.Basic
import Mathlib.Order.Fin.Basic

/-!
# Values the ledger exchanges with PostgreSQL

`Uuid` (the `uuid` crate), `DateTime<Utc>` (chrono) with its `timestamptz`
encoding, the crate error (`src/error.rs`), and the few `std` string functions
the ledger uses.

Results:

* `Uuid.toText_injective`: two identifiers with the same hyphenated text are
  equal.
* `Uuid.ofChars?_eq_some_iff`: reading the text gives the identifier back.
* `Uuid.toText_lt_iff`: the order of the texts is the order of the identifiers
  (`BTreeSet<Uuid>` iterates in the order of the rendered keys).
* `DateTime.decode_encode_iff`: an instant survives the `timestamptz` encoding
  exactly when it is a whole number of microseconds.
-/

namespace Asf

/-- What was written item by item is read back. -/
theorem mapM_map_eq_some {α β : Type} {read : β → Option α} {write : α → β} {l : List α}
    (h : ∀ a ∈ l, read (write a) = some a) : (l.map write).mapM read = some l := by
  induction l with
  | nil => rfl
  | cons a l ih =>
    rw [List.forall_mem_cons] at h
    simp [h.1, ih h.2]

/-! ## `uuid::Uuid` -/

/-- A UUID: its 32 hexadecimal digits, most significant first. -/
structure Uuid where
  nibbles : List (Fin 16)
  length_eq : nibbles.length = 32
deriving DecidableEq

namespace Uuid

/-- The lower-case hexadecimal digit. -/
def hexDigit (d : Fin 16) : Char :=
  if d.val < 10 then Char.ofNat (48 + d.val) else Char.ofNat (87 + d.val)

/-- Reading one lower-case hexadecimal digit. -/
def unhexDigit (c : Char) : Option (Fin 16) :=
  (List.finRange 16).find? fun d => hexDigit d == c

instance : @NeZero ℕ Zero.ofOfNat0 16 := ⟨by decide⟩

/-- `Uuid::nil`. -/
def nil : Uuid := ⟨List.replicate 32 0, by simp⟩

variable (u a b : Uuid)

/-- `Uuid::is_nil`. -/
def isNil : Bool := u == nil

/-- The UUID whose 128-bit value is `n`. -/
def ofNat (n : ℕ) : Uuid :=
  ⟨(List.range 32).map fun i => ⟨n / 16 ^ (31 - i) % 16, Nat.mod_lt _ (by omega)⟩, by simp⟩

/-- `Display`: the digits in groups of 8, 4, 4, 4 and 12 joined by hyphens. -/
def chars : List Char :=
  let d := u.nibbles.map hexDigit
  d.take 8 ++ '-' :: ((d.drop 8).take 4 ++ '-' :: ((d.drop 12).take 4 ++
    '-' :: ((d.drop 16).take 4 ++ '-' :: d.drop 20)))

/-- `Uuid::to_string`. -/
def toText : String := String.ofList u.chars

instance : ToString Uuid := ⟨toText⟩

theorem nibbles_injective : Function.Injective nibbles := by
  rintro ⟨a, _⟩ ⟨b, _⟩ rfl
  rfl

/-- `Ord for Uuid` compares the bytes. -/
instance : LinearOrder Uuid := LinearOrder.lift' nibbles nibbles_injective

theorem lt_iff : a < b ↔ a.nibbles < b.nibbles := Iff.rfl

theorem hexDigit_injective : Function.Injective hexDigit := by
  unfold Function.Injective
  decide

theorem hexDigit_lt_iff : ∀ a b : Fin 16, hexDigit a < hexDigit b ↔ a < b := by decide

@[simp] theorem unhexDigit_hexDigit : ∀ d : Fin 16, unhexDigit (hexDigit d) = some d := by
  decide

@[simp] theorem length_chars : u.chars.length = 36 := by
  simp [chars, u.length_eq]

theorem map_hexDigit_lt_iff (l m : List (Fin 16)) : l.map hexDigit < m.map hexDigit ↔ l < m := by
  induction l generalizing m with
  | nil => cases m <;> simp
  | cons a l ih =>
    cases m with
    | nil => simp
    | cons b m =>
      simp [List.cons_lt_cons_iff, ih, hexDigit_lt_iff, hexDigit_injective.eq_iff]

section

variable {x x' : List Char} (h : x.length = x'.length)

include h

/-- Lists that agree in the length of a first part compare by that part first. -/
theorem append_lt_append_iff (y y' : List Char) : x ++ y < x' ++ y' ↔ x < x' ∨ x = x' ∧ y < y' := by
  induction x generalizing x' with
  | nil =>
    obtain rfl : x' = [] := List.length_eq_zero_iff.mp (by simpa using h.symm)
    simp
  | cons a x ih =>
    obtain _ | ⟨b, x'⟩ := x'
    · simp at h
    · simp only [List.cons_append, List.cons_lt_cons_iff, ih (by simpa using h), List.cons.injEq]
      tauto

/-- A character that stands at one place in both lists does not change the order. -/
theorem append_cons_lt_iff (c : Char) {y y' z z' : List Char} (hrest : y < y' ↔ z < z') :
    x ++ c :: y < x' ++ c :: y' ↔ x ++ z < x' ++ z' := by
  rw [append_lt_append_iff h, append_lt_append_iff h, List.cons_lt_cons_iff, hrest]
  simp

end

/-- The digits put back together from the five groups. -/
theorem groups_eq (d : List Char) :
    d.take 8 ++ ((d.drop 8).take 4 ++ ((d.drop 12).take 4 ++ ((d.drop 16).take 4 ++ d.drop 20)))
      = d := by
  have step (n : ℕ) : (d.drop n).take 4 ++ d.drop (n + 4) = d.drop n := by
    rw [← List.drop_drop]
    exact List.take_append_drop 4 _
  rw [step 16, step 12, step 8, List.take_append_drop]

theorem chars_lt_iff : a.chars < b.chars ↔ a < b := by
  have ha : (a.nibbles.map hexDigit).length = 32 := by simp [a.length_eq]
  have hb : (b.nibbles.map hexDigit).length = 32 := by simp [b.length_eq]
  rw [lt_iff, ← map_hexDigit_lt_iff]
  unfold chars
  generalize a.nibbles.map hexDigit = d at ha
  generalize b.nibbles.map hexDigit = e at hb
  conv_rhs => rw [← groups_eq d, ← groups_eq e]
  -- both sides compare the five groups in turn
  exact append_cons_lt_iff (by simp [ha, hb]) _ <| append_cons_lt_iff (by simp [ha, hb]) _ <|
    append_cons_lt_iff (by simp [ha, hb]) _ <| append_cons_lt_iff (by simp [ha, hb]) _ Iff.rfl

theorem toText_lt_iff : a.toText < b.toText ↔ a < b := by
  rw [toText, toText, String.lt_iff, String.toList_ofList, String.toList_ofList, chars_lt_iff]

theorem toText_injective : Function.Injective toText := by
  intro a b h
  by_contra hne
  rcases lt_or_gt_of_ne hne with hlt | hlt
  · exact absurd ((toText_lt_iff a b).mpr hlt) (by rw [h]; exact lt_irrefl _)
  · exact absurd ((toText_lt_iff b a).mpr hlt) (by rw [h]; exact lt_irrefl _)

/-- Reading the hyphenated lower-case text. -/
def ofChars? (l : List Char) : Option Uuid :=
  ((l.filter (· != '-')).mapM unhexDigit).bind fun d =>
    if h : d.length = 32 then if chars ⟨d, h⟩ = l then some ⟨d, h⟩ else none else none

theorem hexDigit_ne_hyphen : ∀ d : Fin 16, (hexDigit d != '-') = true := by decide

theorem filter_chars : u.chars.filter (· != '-') = u.nibbles.map hexDigit := by
  have hall : ∀ c ∈ u.nibbles.map hexDigit, (c != '-') = true := by
    intro c hc
    obtain ⟨d, -, rfl⟩ := List.mem_map.mp hc
    exact hexDigit_ne_hyphen d
  have hkeep : ∀ l : List Char, l.Sublist (u.nibbles.map hexDigit) → l.filter (· != '-') = l :=
    fun l hl => List.filter_eq_self.mpr fun c hc => hall c (hl.subset hc)
  unfold chars
  simp only [List.filter_append, List.filter_cons_of_neg, bne_self_eq_false, Bool.false_eq_true,
    not_false_eq_true]
  rw [hkeep _ (List.take_sublist ..), hkeep _ ((List.take_sublist ..).trans (List.drop_sublist ..)),
    hkeep _ ((List.take_sublist ..).trans (List.drop_sublist ..)), hkeep _ ((List.take_sublist
    ..).trans (List.drop_sublist ..)), hkeep _ (List.drop_sublist ..), groups_eq]

/-- Round trip of the text. -/
theorem ofChars?_eq_some_iff {l : List Char} {u : Uuid} : ofChars? l = some u ↔ u.chars = l := by
  constructor
  · intro h
    obtain ⟨d, -, h⟩ := Option.bind_eq_some_iff.mp h
    split_ifs at h with hlength hchars
    obtain rfl := Option.some.inj h
    exact hchars
  · rintro rfl
    rw [ofChars?, filter_chars, mapM_map_eq_some fun d _ => unhexDigit_hexDigit d,
      Option.bind_some, dif_pos u.length_eq, if_pos rfl]

theorem colon_notMem_chars : ':' ∉ u.chars := by
  intro h
  have hmem : ':' ∈ u.nibbles.map hexDigit := by
    rw [← filter_chars]
    exact List.mem_filter.mpr ⟨h, by decide⟩
  obtain ⟨d, -, hd⟩ := List.mem_map.mp hmem
  revert d
  decide

end Uuid

/-! ## `chrono::DateTime<Utc>` and `timestamptz` -/

/-- A `timestamptz` value: microseconds since 2000-01-01 UTC. -/
abbrev Timestamptz := ℤ

/-- `DateTime<Utc>`: nanoseconds since 2000-01-01 UTC. -/
structure DateTime where
  nanos : ℤ
deriving DecidableEq

namespace DateTime

/-- What binding the instant to a `timestamptz` parameter sends: sqlx sends
    `num_microseconds()` of the distance to the epoch, which truncates. -/
def encode (d : DateTime) : Timestamptz := d.nanos.tdiv 1000

/-- What reading a `timestamptz` column returns. -/
def decode (t : Timestamptz) : DateTime := ⟨t * 1000⟩

theorem decode_encode_iff (d : DateTime) : decode (encode d) = d ↔ (1000 : ℤ) ∣ d.nanos := by
  obtain ⟨n⟩ := d
  simp only [encode, decode, mk.injEq]
  exact ⟨fun h => ⟨n.tdiv 1000, by omega⟩, fun h => Int.tdiv_mul_cancel h⟩

end DateTime

/-- `std::time::Duration`, in nanoseconds. -/
structure Duration where
  nanos : ℕ
deriving DecidableEq

/-- `Duration::as_millis`. -/
def Duration.asMillis (d : Duration) : ℕ := d.nanos / 1000000

/-- `Duration::from_hours`. -/
def Duration.fromHours (h : ℕ) : Duration := ⟨h * 3600 * 1000000000⟩

/-! ## Machine integers -/

/-- The largest `i32` (`integer` column). -/
def i32Max : ℤ := 2 ^ 31 - 1

/-- The largest `i64` (`bigint` column). -/
def i64Max : ℤ := 2 ^ 63 - 1

/-- The largest `u32`. -/
def u32Max : ℕ := 2 ^ 32 - 1

/-- The largest `u64`. -/
def u64Max : ℕ := 2 ^ 64 - 1

/-! ## `crate::Error` -/

/-- `crate::Error` (src/error.rs:4-29). -/
inductive Error where
  | validation (message : String)
  | invalidTransition ( from_ to_ : String)
  | conflict (message : String)
  | notFound (message : String)
  | unauthenticated
  | forbidden (message : String)
  | crypto (message : String)
  | externalUnavailable (message : String)
  | ambiguousEffect (message : String)
  | persistence (message : String)
  | serialization (message : String)
deriving DecidableEq, Repr

/-- `crate::Result<T>`. -/
abbrev Result (α : Type) := Except Error α

/-- `persistence_error` (src/ledger/mod.rs:209-211). -/
def persistenceError (context error : String) : Error :=
  .persistence s!"{context}: {error}"

/-- What sqlx reports for a `NULL` in a column that is read as non-null. -/
def unexpectedNull (column : String) : String :=
  s!"error occurred while decoding column \"{column}\": unexpected null; try decoding as an "
    ++ "\x60Option\x60"

/-- `required_column` (jobs.rs:705-711), `decode` (reservations.rs:2095-2101) on a
    nullable column. -/
def requiredColumn {α : Type} (column context : String) : Option α → Result α
  | some value => .ok value
  | none => .error (persistenceError s!"decode {context}" (unexpectedNull column))

/-- `x.ok_or(error)`. -/
def okOr {ε α : Type} (error : ε) : Option α → Except ε α
  | some a => .ok a
  | none => .error error

/-- `if rejected { return Err(error) }`. -/
def failIf (rejected : Prop) [Decidable rejected] (error : Error) : Result Unit :=
  if rejected then .error error else .ok ()

section Results

variable {α β : Type} {rejected : Prop} [Decidable rejected] {error : Error} {ε : Type}

@[simp] theorem failIf_eq_ok_iff {u : Unit} : failIf rejected error = .ok u ↔ ¬ rejected := by
  unfold failIf
  split_ifs with h <;> simp [h]

@[simp] theorem okOr_eq_ok_iff {e : ε} {x : Option α} {a : α} : okOr e x = .ok a ↔ x = some a := by
  cases x <;> simp [okOr]

theorem bind_eq_ok_iff {x : Except ε α} {f : α → Except ε β} {b : β} :
    x >>= f = .ok b ↔ ∃ a, x = .ok a ∧ f a = .ok b := by
  cases x <;> simp [bind, Except.bind]

theorem map_eq_ok_iff {x : Except ε α} {f : α → β} {b : β} :
    x.map f = .ok b ↔ ∃ a, x = .ok a ∧ f a = b := by
  cases x <;> simp [Except.map]

/-- Nothing after a rejected check runs. -/
@[simp] theorem failIf_bind_eq_ok_iff {f : Unit → Result β} {b : β} :
    failIf rejected error >>= f = .ok b ↔ ¬ rejected ∧ f () = .ok b := by
  rw [bind_eq_ok_iff]
  constructor
  · rintro ⟨⟨⟩, h, hf⟩
    exact ⟨failIf_eq_ok_iff.mp h, hf⟩
  · rintro ⟨h, hf⟩
    exact ⟨(), failIf_eq_ok_iff.mpr h, hf⟩

end Results

/-! ## `str` -/

/-- `char::is_whitespace` (the Unicode `White_Space` property). -/
def isWhitespace (c : Char) : Bool :=
  let n := c.toNat
  (9 ≤ n && n ≤ 13) || n == 0x20 || n == 0x85 || n == 0xA0 || n == 0x1680 ||
    (0x2000 ≤ n && n ≤ 0x200A) || n == 0x2028 || n == 0x2029 || n == 0x202F || n == 0x205F ||
    n == 0x3000

variable (value : String)

/-- `value.trim().is_empty()`. -/
def isBlank : Bool := value.toList.all isWhitespace

/-- `value.contains(part)`, SQL `strpos(value, part) > 0`. -/
def containsText (value part : String) : Bool :=
  value.toList.tails.any fun rest => part.toList.isPrefixOf rest

/-- `value.to_ascii_lowercase()`. -/
def toAsciiLowercase : String :=
  value.map fun c => if 'A' ≤ c && c ≤ 'Z' then Char.ofNat (c.toNat + 32) else c

/-- `value.bytes()`. -/
def bytes : List UInt8 := value.toList.flatMap String.utf8EncodeChar

/-- `value.trim()`. -/
def trim : String :=
  String.ofList (((value.toList.dropWhile isWhitespace).reverse.dropWhile isWhitespace).reverse)

/-- SQL `btrim(value)`, which removes spaces only. -/
def btrim : String :=
  String.ofList (((value.toList.dropWhile (· == ' ')).reverse.dropWhile (· == ' ')).reverse)

/-- `value.chars().take(n).collect()`. -/
def takeChars (n : ℕ) (value : String) : String := String.ofList (value.toList.take n)

/-- `{:?}` of a string, for text without control characters. -/
def debugText : String :=
  let escaped := value.toList.flatMap fun c => if c == '"' || c == '\\' then ['\\', c] else [c]
  String.ofList ('"' :: escaped ++ ['"'])

/-! ## Regular expressions of the SQL text -/

/-- Matching a fixed-length pattern, one character class per position. -/
def matchesPattern : List (Char → Bool) → List Char → Bool
  | [], [] => true
  | p :: ps, c :: cs => p c && matchesPattern ps cs
  | _, _ => false

/-- `[0-9a-f]`. -/
def isLowerHex (c : Char) : Bool := ('0' ≤ c && c ≤ '9') || ('a' ≤ c && c ≤ 'f')

/-- The lower-case RFC 4122 pattern of the claim scans, versions 1 to 8:
    8, 4, 4, 4 and 12 digits. -/
def isUuidText : Bool :=
  let hex := fun n => List.replicate n isLowerHex
  let hyphen := [fun c : Char => c == '-']
  matchesPattern
    (hex 8 ++ hyphen ++ hex 4 ++ hyphen ++ (fun c : Char => '1' ≤ c && c ≤ '8') :: hex 3 ++ hyphen
      ++ (fun c : Char => c == '8' || c == '9' || c == 'a' || c == 'b') :: hex 3 ++ hyphen
      ++ hex 12)
    value.toList

/-- `^sha256:[0-9a-f]\x7b64\x7d$`. -/
def isDigestText : Bool :=
  matchesPattern ("sha256:".toList.map (fun d c => c == d) ++ List.replicate 64 isLowerHex)
    value.toList

/-- `^[0-9]+$`. -/
def isDigits : Bool :=
  !value.isEmpty && value.toList.all fun c => '0' ≤ c && c ≤ '9'

/-- `value::bigint` on a text of digits; `none` when it is out of range. -/
def bigintOfDigits : Option ℤ :=
  let n : ℕ := value.toList.foldl (fun n c => n * 10 + (c.toNat - 48)) 0
  if (n : ℤ) ≤ i64Max then some n else none

end Asf
