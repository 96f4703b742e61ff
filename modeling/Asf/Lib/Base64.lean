import Mathlib.Data.List.FinRange
import Mathlib.Data.String.Basic

/-!
# Base64 without padding, URL alphabet

Three bytes are four sextets; a last group of one or two bytes is two or three
sextets whose remaining bits are zero. Reading is strict: a character outside
the alphabet, a single last sextet and remaining bits that are not zero are
refused.

Results:

* `decode_encode`: reading what was written gives the bytes back.
-/

namespace Lib.Base64

/-! ## Sextets -/

/-- The sextets of a sequence of bytes. -/
def sextets : List UInt8 → List ℕ
  | [] => []
  | [a] => [a.toNat / 4, a.toNat % 4 * 16]
  | [a, b] => [a.toNat / 4, a.toNat % 4 * 16 + b.toNat / 16, b.toNat % 16 * 4]
  | a :: b :: c :: rest =>
    a.toNat / 4 :: (a.toNat % 4 * 16 + b.toNat / 16) :: (b.toNat % 16 * 4 + c.toNat / 64)
      :: c.toNat % 64 :: sextets rest

/-- The bytes of a sequence of sextets. -/
def ofSextets : List ℕ → Option (List UInt8)
  | [] => some []
  | [_] => none
  | [p, q] => if q % 16 = 0 then some [.ofNat (p * 4 + q / 16)] else none
  | [p, q, r] =>
    if r % 4 = 0 then some [.ofNat (p * 4 + q / 16), .ofNat (q % 16 * 16 + r / 4)] else none
  | p :: q :: r :: s :: rest =>
    (ofSextets rest).map fun bytes =>
      .ofNat (p * 4 + q / 16) :: .ofNat (q % 16 * 16 + r / 4) :: .ofNat (r % 4 * 64 + s) :: bytes

theorem ofNat_eq_of_toNat {n : ℕ} {a : UInt8} (h : n = a.toNat) : UInt8.ofNat n = a := by
  rw [h, UInt8.ofNat_toNat]

theorem ofSextets_sextets (bytes : List UInt8) : ofSextets (sextets bytes) = some bytes := by
  induction bytes using sextets.induct with
  | case1 => rfl
  | case2 a =>
    have hrest : a.toNat % 4 * 16 % 16 = 0 := by omega
    have ha : a.toNat / 4 * 4 + a.toNat % 4 * 16 / 16 = a.toNat := by omega
    simp only [sextets, ofSextets]
    rw [if_pos hrest, ofNat_eq_of_toNat ha]
  | case3 a b =>
    have hb' := b.toNat_lt
    have hrest : b.toNat % 16 * 4 % 4 = 0 := by omega
    have ha : a.toNat / 4 * 4 + (a.toNat % 4 * 16 + b.toNat / 16) / 16 = a.toNat := by omega
    have hb : (a.toNat % 4 * 16 + b.toNat / 16) % 16 * 16 + b.toNat % 16 * 4 / 4 = b.toNat := by
      omega
    simp only [sextets, ofSextets]
    rw [if_pos hrest, ofNat_eq_of_toNat ha, ofNat_eq_of_toNat hb]
  | case4 a b c rest ih =>
    have hb' := b.toNat_lt
    have hc' := c.toNat_lt
    have ha : a.toNat / 4 * 4 + (a.toNat % 4 * 16 + b.toNat / 16) / 16 = a.toNat := by omega
    have hb : (a.toNat % 4 * 16 + b.toNat / 16) % 16 * 16 + (b.toNat % 16 * 4 + c.toNat / 64) / 4
        = b.toNat := by omega
    have hc : (b.toNat % 16 * 4 + c.toNat / 64) % 4 * 64 + c.toNat % 64 = c.toNat := by omega
    simp only [sextets, ofSextets]
    rw [ih, Option.map_some, ofNat_eq_of_toNat ha, ofNat_eq_of_toNat hb, ofNat_eq_of_toNat hc]

variable {bytes : List UInt8}

theorem sextets_lt_of {k m : ℕ} (hk : 48 + k ≤ m) (hm : 4 * k ≤ m)
    (h : ∀ b ∈ bytes, b.toNat < 16 * k ∧ b.toNat % 16 * 4 + 3 < m ∧ b.toNat % 64 < m) :
    ∀ n ∈ sextets bytes, n < m := by
  induction bytes using sextets.induct with
  | case1 => simp [sextets]
  | case2 a =>
    simp only [sextets, List.forall_mem_cons] at h ⊢
    exact ⟨by omega, by omega, by simp⟩
  | case3 a b =>
    simp only [sextets, List.forall_mem_cons] at h ⊢
    exact ⟨by omega, by omega, by omega, by simp⟩
  | case4 a b c rest ih =>
    simp only [sextets, List.forall_mem_cons] at h ⊢
    exact ⟨by omega, by omega, by omega, by omega, ih h.2.2.2⟩

theorem sextets_lt (bytes : List UInt8) : ∀ n ∈ sextets bytes, n < 64 := by
  refine sextets_lt_of (k := 16) le_rfl le_rfl fun b _ => ?_
  have hb := b.toNat_lt
  omega

/-- ASCII bytes other than those that end in the bits of the last sextets. -/
theorem sextets_lt_of_ascii
    (h : ∀ b ∈ bytes, b.toNat < 128 ∧ b.toNat % 16 < 15 ∧ b.toNat % 64 < 63) :
    ∀ n ∈ sextets bytes, n < 63 := by
  refine sextets_lt_of (k := 8) (by decide) (by decide) fun b hb => ?_
  have hbits := h b hb
  omega

/-! ## The alphabet -/

/-- The characters of the sextets, in order. -/
def alphabet : List Char :=
  "ABCDEFGHIJKLMNOPQRSTUVWXYZabcdefghijklmnopqrstuvwxyz0123456789-_".toList

/-- The character of a sextet. -/
def digit (n : ℕ) : Char := alphabet[n]?.getD 'A'

/-- The sextet of a character. -/
def value? (c : Char) : Option ℕ := (List.range 64).find? fun n => digit n == c

theorem value?_digit : ∀ n < 64, value? (digit n) = some n := by decide +kernel

theorem mapM_value?_digit (l : List ℕ) (h : ∀ n ∈ l, n < 64) :
    (l.map digit).mapM value? = some l := by
  induction l with
  | nil => rfl
  | cons n l ih =>
    have hn := value?_digit n (h n List.mem_cons_self)
    have hl := ih fun m hm => h m (List.mem_cons_of_mem n hm)
    simp [hn, hl]

/-! ## Texts -/

/-- Writing bytes. -/
def encode (bytes : List UInt8) : String := String.ofList ((sextets bytes).map digit)

/-- Reading bytes. -/
def decode (text : String) : Option (List UInt8) := (text.toList.mapM value?).bind ofSextets

theorem mem_encode_of_ascii
    (h : ∀ b ∈ bytes, b.toNat < 128 ∧ b.toNat % 16 < 15 ∧ b.toNat % 64 < 63) :
    ∀ c ∈ (encode bytes).toList, c ≠ ' ' ∧ c ≠ '_' := by
  have hdigit : ∀ n < 63, digit n ≠ ' ' ∧ digit n ≠ '_' := by decide +kernel
  intro c hc
  rw [encode, String.toList_ofList] at hc
  obtain ⟨n, hn, rfl⟩ := List.mem_map.mp hc
  exact hdigit n (sextets_lt_of_ascii h n hn)

/-- At most two characters for a byte. -/
theorem length_encode_le (bytes : List UInt8) :
    (encode bytes).toList.length ≤ 2 * bytes.length := by
  rw [encode, String.toList_ofList, List.length_map]
  fun_induction sextets bytes <;> simp only [List.length_cons, List.length_nil] <;> omega

theorem decode_encode (bytes : List UInt8) : decode (encode bytes) = some bytes := by
  rw [decode, encode, String.toList_ofList, mapM_value?_digit _ (sextets_lt bytes),
    Option.bind_some, ofSextets_sextets]

end Lib.Base64
