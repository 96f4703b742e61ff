import Mathlib.Data.Nat.Digits.Defs
import Asf.Common.Json

/-!
# How long a printed document is

A bound for the compact text of a value.

Results:

* `length_print_le`: the bound holds.
* `length_bytes_canonicalText`: what it says about the bytes of the canonical text.
-/

namespace Asf.Json

open List (length_append length_cons length_nil)

/-! ## The compact text -/

theorem length_escaped_le (c : Char) : (escaped c).length ≤ 6 := by
  unfold escaped
  split_ifs <;> simp

/-- A character takes one to four bytes. -/
theorem length_flatMap_utf8EncodeChar (l : List Char) :
    l.length ≤ (l.flatMap String.utf8EncodeChar).length
      ∧ (l.flatMap String.utf8EncodeChar).length ≤ 4 * l.length := by
  induction l with
  | nil => simp
  | cons c l ih =>
    have hpos := c.utf8Size_pos
    have hfour := c.utf8Size_le_four
    simp only [List.flatMap_cons, length_append, String.length_utf8EncodeChar, length_cons]
    omega

theorem utf8ByteSize_eq (s : String) : s.utf8ByteSize = (bytes s).length := by
  rw [String.utf8ByteSize, ← String.utf8Encode_toList, List.utf8Encode, bytes]
  simp

theorem length_quoted_le (s : String) : (quoted s).length ≤ 6 * s.utf8ByteSize + 2 := by
  have hchars : ∀ l : List Char, (l.flatMap escaped).length ≤ 6 * l.length := by
    intro l
    induction l with
    | nil => simp
    | cons c l ih =>
      have hc := length_escaped_le c
      simp only [List.flatMap_cons, length_append, length_cons]
      omega
  have hbound := hchars s.toList
  have hsize := (length_flatMap_utf8EncodeChar s.toList).1
  rw [utf8ByteSize_eq, bytes]
  simp only [quoted, length_cons, length_append, length_nil]
  omega

theorem length_decimal_le (m : ℤ) (e : ℕ) : (decimal m e).length ≤ m.natAbs + e + 4 := by
  have hdigits : (Nat.toDigits 10 m.natAbs).length ≤ m.natAbs + 1 := by
    rw [Nat.length_toDigits_le_iff (by omega) (by omega)]
    calc m.natAbs < 10 ^ m.natAbs := Nat.lt_pow_self (by omega)
      _ ≤ 10 ^ (m.natAbs + 1) := Nat.pow_le_pow_right (by omega) (by omega)
  unfold decimal
  split_ifs <;> simp <;> omega

mutual

/-- A bound for the length of the compact text. -/
def printBound : Json → ℕ
  | .null => 4
  | .bool _ => 5
  | .num m e => m.natAbs + e + 4
  | .str s => 6 * s.utf8ByteSize + 2
  | .arr items => itemsBound items + 2
  | .obj fields => fieldsBound fields + 2

def itemsBound : List Json → ℕ
  | [] => 0
  | x :: xs => printBound x + 1 + itemsBound xs

def fieldsBound : List (String × Json) → ℕ
  | [] => 0
  | (k, x) :: xs => 6 * k.utf8ByteSize + 4 + printBound x + fieldsBound xs

end

mutual

theorem length_print_le : ∀ value : Json, (print value).length ≤ printBound value
  | .null => by simp [print, printBound]
  | .bool b => by cases b <;> simp [print, printBound]
  | .num m e => length_decimal_le m e
  | .str s => length_quoted_le s
  | .arr items => by
    have h := length_printItems_le items
    simp only [print, printBound, length_cons, length_append, length_nil]
    omega
  | .obj fields => by
    have h := length_printFields_le fields
    simp only [print, printBound, length_cons, length_append, length_nil]
    omega

theorem length_printItems_le : ∀ items : List Json, (printItems items).length ≤ itemsBound items
  | [] => by simp [printItems]
  | [x] => by
    have h := length_print_le x
    simp only [printItems, itemsBound]
    omega
  | x :: y :: xs => by
    have hx := length_print_le x
    have hxs := length_printItems_le (y :: xs)
    rw [itemsBound]
    simp only [printItems, length_append, length_cons] at hxs ⊢
    omega

theorem length_printFields_le : ∀ fields : List (String × Json),
    (printFields fields).length ≤ fieldsBound fields
  | [] => by simp [printFields]
  | [(k, x)] => by
    have hk := length_quoted_le k
    have h := length_print_le x
    simp only [printFields, fieldsBound, length_append, length_cons]
    omega
  | (k, x) :: f :: xs => by
    have hk := length_quoted_le k
    have hx := length_print_le x
    have hxs := length_printFields_le (f :: xs)
    rw [fieldsBound]
    simp only [printFields, length_append, length_cons] at hxs ⊢
    omega

end

/-! ## Bytes -/

/-- The bytes of the compact text of an object. -/
theorem length_bytes_print (fields : List (String × Json)) :
    2 ≤ (bytes (String.ofList (print (.obj fields)))).length
      ∧ (bytes (String.ofList (print (.obj fields)))).length ≤ 4 * printBound (.obj fields) := by
  have hbytes := length_flatMap_utf8EncodeChar (print (.obj fields))
  have hprint := length_print_le (.obj fields)
  have htwo : 2 ≤ (print (.obj fields)).length := by
    simp only [print, length_cons, length_append, length_nil]
    omega
  rw [bytes, String.toList_ofList]
  omega

/-- The bytes of the canonical text of an object. -/
theorem length_bytes_canonicalText {value : Json} {fields : List (String × Json)}
    (h : value = .obj fields) :
    2 ≤ (bytes (String.ofList (canonicalText value))).length
      ∧ (bytes (String.ofList (canonicalText value))).length
        ≤ 4 * printBound value.ordered.normalize := by
  subst h
  exact length_bytes_print (normalizeFields (insertFields [] (orderedFields fields)))

end Asf.Json
