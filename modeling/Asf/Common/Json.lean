import Asf.Common.Basic
import Mathlib.Data.List.Induction

/-!
# JSON values and `jsonb`

`Json` models `serde_json::Value`. An object is listed in key order, so that
equality of terms is equality of maps. `sqlEq` is `jsonb` equality: numbers
compare by value, not by spelling.

The later sections model the `jsonb` operators the ledger's SQL uses and the
building of objects.

Results:

* `field_insertFields`, `field_ofFields`: the members of an object that was built.
* `field_ordered`: a canonical document has the members of the document.
* `map_normalize_field`: equal documents have equal members.
-/

namespace Asf

open Prod (mk fst)
open List (cons map_cons mem_cons)

variable {key : String}

/-- `serde_json::Value`. The number `num m e` is the decimal `m · 10^(-e)` as
    it is written. -/
inductive Json where
  | null
  | bool (b : Bool)
  | num (mantissa : ℤ) (scale : ℕ)
  | str (s : String)
  | arr (items : List Json)
  | obj (fields : List (String × Json))

variable {value : Json} {fields entries : List (String × Json)}

namespace Json

mutual

/-- Decidable equality of values, written out because the type is nested. -/
def decEq : (a b : Json) → Decidable (a = b)
  | .null, .null => .isTrue rfl
  | .bool a, .bool b =>
    if h : a = b then .isTrue (h ▸ rfl) else .isFalse fun e => h (Json.bool.inj e)
  | .num m e, .num m' e' =>
    if h : m = m' ∧ e = e' then .isTrue (h.1 ▸ h.2 ▸ rfl)
    else .isFalse fun q => h (Json.num.inj q)
  | .str a, .str b =>
    if h : a = b then .isTrue (h ▸ rfl) else .isFalse fun e => h (Json.str.inj e)
  | .arr a, .arr b =>
    match decEqList a b with
    | .isTrue h => .isTrue (h ▸ rfl)
    | .isFalse h => .isFalse fun e => h (Json.arr.inj e)
  | .obj a, .obj b =>
    match decEqFields a b with
    | .isTrue h => .isTrue (h ▸ rfl)
    | .isFalse h => .isFalse fun e => h (Json.obj.inj e)
  | .null, .bool _ | .null, .num _ _ | .null, .str _ | .null, .arr _ | .null, .obj _
  | .bool _, .null | .bool _, .num _ _ | .bool _, .str _ | .bool _, .arr _ | .bool _, .obj _
  | .num _ _, .null | .num _ _, .bool _ | .num _ _, .str _ | .num _ _, .arr _ | .num _ _, .obj _
  | .str _, .null | .str _, .bool _ | .str _, .num _ _ | .str _, .arr _ | .str _, .obj _
  | .arr _, .null | .arr _, .bool _ | .arr _, .num _ _ | .arr _, .str _ | .arr _, .obj _
  | .obj _, .null | .obj _, .bool _ | .obj _, .num _ _ | .obj _, .str _ | .obj _, .arr _ =>
    .isFalse nofun

def decEqList : (a b : List Json) → Decidable (a = b)
  | [], [] => .isTrue rfl
  | [], _ :: _ | _ :: _, [] => .isFalse nofun
  | a :: as, b :: bs =>
    match decEq a b, decEqList as bs with
    | .isTrue h, .isTrue t => .isTrue (h ▸ t ▸ rfl)
    | .isFalse h, _ => .isFalse fun e => h (cons.inj e).1
    | _, .isFalse t => .isFalse fun e => t (cons.inj e).2

def decEqFields : (a b : List (String × Json)) → Decidable (a = b)
  | [], [] => .isTrue rfl
  | [], _ :: _ | _ :: _, [] => .isFalse nofun
  | (k, a) :: as, (l, b) :: bs =>
    match decEq a b, decEqFields as bs with
    | .isTrue h, .isTrue t =>
      if hk : k = l then .isTrue (hk ▸ h ▸ t ▸ rfl)
      else .isFalse fun e => hk (mk.inj (cons.inj e).1).1
    | .isFalse h, _ => .isFalse fun e => h (mk.inj (cons.inj e).1).2
    | _, .isFalse t => .isFalse fun e => t (cons.inj e).2

end

instance : DecidableEq Json := decEq

/-! ## `jsonb` equality -/

/-- A decimal without trailing zeros in its fraction. -/
def reduceDecimal (m : ℤ) : ℕ → ℤ × ℕ
  | 0 => (m, 0)
  | e + 1 => if m % 10 = 0 then reduceDecimal (m / 10) e else (m, e + 1)

mutual

/-- The representative of a value's `jsonb` equality class. -/
def normalize : Json → Json
  | .num m e => .num (reduceDecimal m e).1 (reduceDecimal m e).2
  | .arr items => .arr (normalizeList items)
  | .obj fields => .obj (normalizeFields fields)
  | .null => .null
  | .bool b => .bool b
  | .str s => .str s

def normalizeList : List Json → List Json
  | [] => []
  | x :: xs => normalize x :: normalizeList xs

def normalizeFields : List (String × Json) → List (String × Json)
  | [] => []
  | (k, x) :: xs => (k, normalize x) :: normalizeFields xs

end

/-- `a = b` on `jsonb`. -/
def sqlEq (a b : Json) : Bool := decide (normalize a = normalize b)

@[simp] theorem sqlEq_refl (a : Json) : sqlEq a a = true := by simp [sqlEq]

/-! ## `jsonb` operators -/

/-- `Value::is_object`. -/
def isObject : Json → Bool
  | .obj _ => true
  | _ => false

/-- `Value::is_array`. -/
def isArray : Json → Bool
  | .arr _ => true
  | _ => false

/-- `Value::as_str`. -/
def asStr : Json → Option String
  | .str s => some s
  | _ => none

/-- `Value::as_array`. -/
def asArray : Json → Option (List Json)
  | .arr items => some items
  | _ => none

/-- `Value::as_object`. -/
def asObject : Json → Option (List (String × Json))
  | .obj fields => some fields
  | _ => none

/-- `Value::as_u64`. -/
def asU64 : Json → Option ℕ
  | .num m 0 => if 0 ≤ m ∧ m ≤ u64Max then some m.toNat else none
  | _ => none

theorem asU64_num {number : ℕ} (h : number ≤ u64Max) : asU64 (.num number 0) = some number := by
  rw [asU64, if_pos ⟨by omega, by exact_mod_cast h⟩, Int.toNat_natCast]

theorem asU64_num_eq_some {number number' : ℕ} (h : asU64 (.num number 0) = some number') :
    number' = number := by
  rw [asU64] at h
  split_ifs at h
  simpa using h.symm

theorem asArray_eq_some_iff {items : List Json} :
    value.asArray = some items ↔ value = .arr items := by
  cases value <;> simp [asArray]

/-- How serde writes an `Option`. -/
def ofOption {α : Type} (f : α → Json) : Option α → Json
  | some a => f a
  | none => .null

/-- The value names of `jsonb_typeof`. -/
inductive Kind where
  | null | boolean | number | string | array | object
deriving DecidableEq, Repr

/-- `jsonb_typeof(value)`. -/
def kind : Json → Kind
  | .null => .null
  | .bool _ => .boolean
  | .num _ _ => .number
  | .str _ => .string
  | .arr _ => .array
  | .obj _ => .object

/-- `value -> key`: `none` for SQL `NULL`. -/
def field (key : String) : Json → Option Json
  | .obj fields => (fields.find? fun f => f.1 == key).map Prod.snd
  | _ => none

/-- `value ?& keys` on an object. -/
def hasKeys (keys : List String) : Json → Bool
  | .obj fields => keys.all fun key => fields.any fun f => f.1 == key
  | _ => false

/-- `value - keys = '\x7b\x7d'::jsonb` on an object. -/
def onlyKeys (keys : List String) : Json → Bool
  | .obj fields => fields.all fun f => keys.contains f.1
  | _ => false

/-- `jsonb_typeof(value -> key) = kind`. -/
def fieldKind (value : Json) (key : String) (k : Kind) : Bool :=
  (value.field key).any fun v => v.kind == k

/-- One character of a JSON string as `jsonb` prints it. -/
def escapeChar (c : Char) : List Char :=
  if c == '"' then ['\\', '"']
  else if c == '\\' then ['\\', '\\']
  else if c == '\n' then ['\\', 'n']
  else if c == '\r' then ['\\', 'r']
  else if c == '\t' then ['\\', 't']
  else if c.toNat == 8 then ['\\', 'b']
  else if c.toNat == 12 then ['\\', 'f']
  else if c.toNat < 32 then
    ['\\', 'u', '0', '0', Nat.digitChar (c.toNat / 16), Nat.digitChar (c.toNat % 16)]
  else [c]

/-- A JSON string as `jsonb` prints it. -/
def quote (s : String) : String :=
  String.ofList ('"' :: s.toList.flatMap escapeChar ++ ['"'])

/-- A decimal as `numeric` prints it. -/
def decimalText (m : ℤ) (e : ℕ) : String :=
  if e = 0 then toString m
  else
    let digits := toString m.natAbs
    let padded := "".pushn '0' (e + 1 - digits.length) ++ digits
    let cut := padded.length - e
    (if m < 0 then "-" else "") ++ takeChars cut padded ++ "."
      ++ String.ofList (padded.toList.drop cut)

mutual

/-- The text of a value: `jsonb::text`. -/
def render : Json → String
  | .null => "null"
  | .bool b => if b then "true" else "false"
  | .num m e => decimalText m e
  | .str s => quote s
  | .arr items => "[" ++ ", ".intercalate (renderList items) ++ "]"
  | .obj fields => "\x7b" ++ ", ".intercalate (renderFields fields) ++ "\x7d"

def renderList : List Json → List String
  | [] => []
  | x :: xs => render x :: renderList xs

def renderFields : List (String × Json) → List String
  | [] => []
  | (k, x) :: xs => (quote k ++ ": " ++ render x) :: renderFields xs

end

/-- `value ->> key`. -/
def text (value : Json) (key : String) : Option String :=
  (value.field key).bind fun v =>
    match v with
    | .null => none
    | .str s => some s
    | v => some v.render

/-- `value -> key = to_jsonb(n)` for a `bigint` `n`. -/
def fieldIs (value : Json) (key : String) (n : ℤ) : Bool :=
  (value.field key).any fun v => v.sqlEq (.num n 0)

theorem text_of_field_str {s : String} (h : value.field key = some (.str s)) :
    value.text key = some s := by
  simp [text, h]

/-! ## Building objects -/

/-- `Map::insert`, which replaces the value of a key that is there. -/
def insertField (key : String) (value : Json) : List (String × Json) → List (String × Json)
  | [] => [(key, value)]
  | f :: fields =>
    if key = f.1 then (key, value) :: fields
    else if key < f.1 then (key, value) :: f :: fields
    else f :: insertField key value fields

/-- One `Map::insert` after another. -/
def insertFields (fields entries : List (String × Json)) : List (String × Json) :=
  entries.foldl (fun m e => insertField e.1 e.2 m) fields

/-- `json!` of an object. -/
def ofFields (entries : List (String × Json)) : Json := .obj (insertFields [] entries)

@[simp] theorem field_insertField (key key' : String) (value : Json)
    (fields : List (String × Json)) :
    (obj (insertField key value fields)).field key' =
      if key = key' then some value else (obj fields).field key' := by
  simp only [field]
  induction fields with
  | nil => by_cases h : key = key' <;> simp [insertField, h]
  | cons f fields ih =>
    unfold insertField
    by_cases hf : key = f.1
    · by_cases h : key = key'
      · simp [hf, ← h]
      · have : ¬ f.1 = key' := hf ▸ h
        simp [← hf, h]
    · rw [if_neg hf]
      by_cases h : key = key'
      · subst h
        rw [if_pos rfl] at ih ⊢
        split_ifs with hlt
        · simp
        · have hne : (f.1 == key) = false := by simpa using Ne.symm hf
          simpa [List.find?_cons, hne] using ih
      · rw [if_neg h] at ih ⊢
        split_ifs with hlt
        · rw [List.find?_cons_of_neg (by simpa using h)]
        · simp only [List.find?_cons]
          cases f.1 == key' with
          | true => rfl
          | false => exact ih

/-- The value of a key that later entries do not replace. -/
theorem field_insertFields (hkeys : (entries.map fst).Nodup) (h : (key, value) ∈ entries) :
    (obj (insertFields fields entries)).field key = some value := by
  induction entries using List.reverseRecOn with
  | nil => simp at h
  | append_singleton entries e ih =>
    rw [insertFields, List.foldl_append]
    simp only [List.foldl_cons, List.foldl_nil, field_insertField]
    rw [List.map_append, List.nodup_append] at hkeys
    obtain ⟨hkeys, -, hnew⟩ := hkeys
    rcases List.mem_append.mp h with h | h
    · have hne : ¬ e.1 = key := fun he =>
        hnew key (List.mem_map_of_mem h) e.1 (by simp) he.symm
      rw [if_neg hne]
      exact ih hkeys h
    · obtain rfl : (key, value) = e := by simpa using h
      simp

theorem field_ofFields (hkeys : (entries.map fst).Nodup) (h : (key, value) ∈ entries) :
    (ofFields entries).field key = some value :=
  field_insertFields hkeys h

/-! ## Canonical documents -/

mutual

/-- The value that is read back from the canonical JSON of a document (RFC 8785):
    the members of each object in the order of their keys. -/
def ordered : Json → Json
  | .arr items => .arr (orderedItems items)
  | .obj fields => .obj (insertFields [] (orderedFields fields))
  | .null => .null
  | .bool b => .bool b
  | .num m e => .num m e
  | .str s => .str s

def orderedItems : List Json → List Json
  | [] => []
  | x :: xs => ordered x :: orderedItems xs

def orderedFields : List (String × Json) → List (String × Json)
  | [] => []
  | (k, x) :: xs => (k, ordered x) :: orderedFields xs

end

theorem orderedItems_eq_map (items : List Json) : orderedItems items = items.map ordered := by
  induction items with
  | nil => rfl
  | cons x xs ih => rw [orderedItems, ih, map_cons]

theorem orderedFields_eq_map (fields : List (String × Json)) :
    orderedFields fields = fields.map fun f => (f.1, ordered f.2) := by
  induction fields with
  | nil => rfl
  | cons f fields ih => rw [orderedFields, ih, map_cons]

theorem length_insertField (value : Json) (h : key ∉ fields.map fst) :
    (insertField key value fields).length = fields.length + 1 := by
  induction fields with
  | nil => rfl
  | cons f fields ih =>
    simp only [map_cons, mem_cons, not_or] at h
    unfold insertField
    rw [if_neg h.1]
    split_ifs with hlt
    · rfl
    · rw [List.length_cons, ih h.2, List.length_cons]

theorem mem_keys_insertField {key' : String} :
    key' ∈ (insertField key value fields).map fst ↔ key' = key ∨ key' ∈ fields.map fst := by
  induction fields with
  | nil => simp [insertField]
  | cons f fields ih =>
    unfold insertField
    split_ifs with hf hlt
    · simp [hf]
    · simp
    · rw [map_cons, mem_cons, ih, map_cons, mem_cons]
      tauto

theorem mem_keys_insertFields :
    key ∈ (insertFields [] entries).map fst ↔ key ∈ entries.map fst := by
  induction entries using List.reverseRecOn with
  | nil => rfl
  | append_singleton entries e ih =>
    rw [insertFields, List.foldl_append, List.foldl_cons, List.foldl_nil, mem_keys_insertField,
      List.map_append, List.mem_append, List.map_singleton, List.mem_singleton, or_comm]
    exact or_congr_left ih

/-- Distinct keys are all kept. -/
theorem length_insertFields (hkeys : (entries.map fst).Nodup)
    (hfresh : ∀ key ∈ entries.map fst, key ∉ fields.map fst) :
    (insertFields fields entries).length = fields.length + entries.length := by
  induction entries generalizing fields with
  | nil => rfl
  | cons e entries ih =>
    simp only [map_cons, List.nodup_cons, List.forall_mem_cons] at hkeys hfresh
    have hstep : insertFields fields (e :: entries)
        = insertFields (insertField e.1 e.2 fields) entries := rfl
    have hnew : ∀ key ∈ entries.map fst,
        key ∉ (insertField e.1 e.2 fields).map fst := by
      intro key hkey
      rw [mem_keys_insertField, not_or]
      exact ⟨fun heq => hkeys.1 (heq ▸ hkey), hfresh.2 key hkey⟩
    rw [hstep, ih hkeys.2 hnew, length_insertField _ hfresh.1, List.length_cons]
    omega

/-- A key that no entry has. -/
theorem field_insertFields_of_notMem (h : key ∉ entries.map fst) :
    (obj (insertFields fields entries)).field key = (obj fields).field key := by
  induction entries generalizing fields with
  | nil => rfl
  | cons e entries ih =>
    simp only [map_cons, mem_cons, not_or] at h
    have hstep : insertFields fields (e :: entries)
        = insertFields (insertField e.1 e.2 fields) entries := rfl
    rw [hstep, ih h.2, field_insertField, if_neg (Ne.symm h.1)]

/-- The members of a canonical document. -/
theorem field_ordered (hkeys : (fields.map fst).Nodup) (key : String) :
    (ordered (.obj fields)).field key = ((obj fields).field key).map ordered := by
  have hmap : (orderedFields fields).map fst = fields.map fst := by
    rw [orderedFields_eq_map, List.map_map]
    rfl
  rw [ordered]
  cases hfind : fields.find? (fun f => f.1 == key) with
  | some f =>
    have hmem := List.mem_of_find?_eq_some hfind
    have hkey : f.1 = key := by simpa using List.find?_some hfind
    have hordered : (key, ordered f.2) ∈ orderedFields fields := by
      rw [orderedFields_eq_map, ← hkey]
      exact List.mem_map_of_mem (f := fun f : String × Json => (f.1, ordered f.2)) hmem
    rw [field_insertFields (hmap ▸ hkeys) hordered]
    simp [field, hfind]
  | none =>
    have hnot : key ∉ (orderedFields fields).map fst := by
      rw [hmap]
      intro hkey
      obtain ⟨f, hf, rfl⟩ := List.mem_map.mp hkey
      exact absurd (List.find?_eq_none.mp hfind f hf) (by simp)
    rw [field_insertFields_of_notMem hnot]
    simp [field, hfind]

/-! ## Printing -/

/-- A character inside a quoted text. -/
def escaped (c : Char) : List Char :=
  if c = '"' then ['\\', '"']
  else if c = '\\' then ['\\', '\\']
  else if c.toNat = 8 then ['\\', 'b']
  else if c.toNat = 12 then ['\\', 'f']
  else if c = '\n' then ['\\', 'n']
  else if c = '\r' then ['\\', 'r']
  else if c = '\t' then ['\\', 't']
  else if c.toNat < 32 then
    ['\\', 'u', '0', '0', Uuid.hexDigit (Fin.ofNat 16 (c.toNat / 16)),
      Uuid.hexDigit (Fin.ofNat 16 c.toNat)]
  else [c]

def quoted (s : String) : List Char := '"' :: s.toList.flatMap escaped ++ ['"']

/-- The decimal `m · 10^(-e)`. -/
def decimal (m : ℤ) (e : ℕ) : List Char :=
  let digits := Nat.toDigits 10 m.natAbs
  let padded := List.replicate (e + 1 - digits.length) '0' ++ digits
  (if m < 0 then ['-'] else []) ++ padded.take (padded.length - e)
    ++ (if e = 0 then [] else '.' :: padded.drop (padded.length - e))

mutual

/-- The compact text of a value. -/
def print : Json → List Char
  | .null => "null".toList
  | .bool b => (if b then "true" else "false").toList
  | .num m e => decimal m e
  | .str s => quoted s
  | .arr items => '[' :: printItems items ++ [']']
  | .obj fields => '{' :: printFields fields ++ ['}']

def printItems : List Json → List Char
  | [] => []
  | [x] => print x
  | x :: xs => print x ++ ',' :: printItems xs

def printFields : List (String × Json) → List Char
  | [] => []
  | [(k, x)] => quoted k ++ ':' :: print x
  | (k, x) :: xs => quoted k ++ ':' :: print x ++ ',' :: printFields xs

end

/-- The canonical text of a value (RFC 8785), for ASCII keys and for numbers that
    are printed without an exponent. -/
def canonicalText (value : Json) : List Char := print value.ordered.normalize

example : canonicalText (.obj [("b", .num 10 1), ("a", .str "x\n")])
    = "\x7b\"a\":\"x\\n\",\"b\":1\x7d".toList := by
  decide +kernel

/-! ## Reading equal documents -/

theorem field_normalize (key : String) (value : Json) :
    value.normalize.field key = (value.field key).map normalize := by
  cases value with
  | obj fields =>
    simp only [normalize, field]
    induction fields with
    | nil => simp [normalizeFields]
    | cons f fields ih =>
      obtain ⟨k, x⟩ := f
      simp only [normalizeFields, List.find?_cons]
      cases k == key with
      | true => rfl
      | false => exact ih
  | null | bool | num | str | arr => simp [normalize, field]

/-- Equal documents have equal members. -/
theorem map_normalize_field {a b : Json} (h : sqlEq a b = true) (key : String) :
    (a.field key).map normalize = (b.field key).map normalize := by
  rw [← field_normalize, ← field_normalize, of_decide_eq_true h]

/-- A member that is a string is the same string in an equal document. -/
theorem text_of_sqlEq {a b : Json} (h : a.sqlEq b) {s : String} (hb : b.field key = some (.str s)) :
    a.text key = some s := by
  have hfield := map_normalize_field h key
  rw [hb] at hfield
  obtain ⟨v, ha, hv⟩ := Option.map_eq_some_iff.mp hfield
  cases v <;> simp only [normalize, reduceCtorEq, str.injEq] at hv
  exact text_of_field_str (hv ▸ ha)

end Json
end Asf
