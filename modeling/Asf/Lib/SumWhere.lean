import Mathlib.Algebra.BigOperators.Group.List.Basic
import Mathlib.Algebra.GroupWithZero.Nat
import Mathlib.Algebra.Order.BigOperators.Group.List

/-!
# Sums over selected rows

`sumWhere p f l` is `SELECT SUM(f) FROM l WHERE p`.

Results:

* `sumWhere_append`: the sum over two tables one after the other.
* `sumWhere_mono`: selecting fewer rows gives a smaller sum.
* `sumWhere_split`: the rows of a selection with and without a property.
-/

namespace Lib

variable {α : Type*} (f : α → ℕ)

/-- `SELECT COALESCE(SUM(f), 0) FROM l WHERE p`. -/
def sumWhere (p : α → Bool) (f : α → ℕ) (l : List α) : ℕ := ((l.filter p).map f).sum

theorem sumWhere_cons (p : α → Bool) (a : α) (l : List α) :
    sumWhere p f (a :: l) = (if p a then f a else 0) + sumWhere p f l := by
  unfold sumWhere
  by_cases h : p a
  · simp [h]
  · simp [h]

@[simp] theorem sumWhere_append (p : α → Bool) (l m : List α) :
    sumWhere p f (l ++ m) = sumWhere p f l + sumWhere p f m := by
  simp [sumWhere]

variable {f} {p q : α → Bool} {l : List α}

theorem sumWhere_congr (h : ∀ a ∈ l, p a = q a) : sumWhere p f l = sumWhere q f l := by
  unfold sumWhere
  rw [List.filter_congr h]

theorem sumWhere_eq_zero (h : ∀ a ∈ l, ¬ p a) : sumWhere p f l = 0 := by
  unfold sumWhere
  rw [List.filter_eq_nil_iff.mpr h]
  rfl

theorem sumWhere_split (p q : α → Bool) (l : List α) :
    sumWhere p f l = sumWhere (fun a => p a && q a) f l + sumWhere (fun a => p a && !q a) f l := by
  induction l with
  | nil => rfl
  | cons a l ih =>
    rw [sumWhere_cons, sumWhere_cons, sumWhere_cons, ih]
    cases p a <;> cases q a <;> simp <;> omega

theorem sumWhere_mono (h : ∀ a ∈ l, p a → q a) : sumWhere p f l ≤ sumWhere q f l := by
  have hp : sumWhere p f l = sumWhere (fun a => q a && p a) f l := by
    apply sumWhere_congr
    intro a ha
    cases hpa : p a with
    | false => simp
    | true => simp [h a ha hpa]
  rw [hp, sumWhere_split q p]
  exact Nat.le_add_right _ _

theorem sumWhere_map {β : Type*} (g : β → α) (l : List β) :
    sumWhere p f (l.map g) = sumWhere (p ∘ g) (f ∘ g) l := by
  simp [sumWhere, List.filter_map]

/-- The sum over the one row with a key. -/
theorem sumWhere_key {κ : Type*} [DecidableEq κ] {key : α → κ} (hl : (l.map key).Nodup) {a : α}
    (ha : a ∈ l) : sumWhere (fun b => decide (key b = key a)) f l = f a := by
  induction l with
  | nil => exact absurd ha (by simp)
  | cons b l ih =>
    obtain ⟨hb, hl⟩ := List.nodup_cons.mp hl
    rw [sumWhere_cons]
    rcases List.mem_cons.mp ha with rfl | ha
    · have hrest : sumWhere (fun b => decide (key b = key a)) f l = 0 :=
        sumWhere_eq_zero fun c hc hkey => hb (of_decide_eq_true hkey ▸ List.mem_map_of_mem hc)
      simp [hrest]
    · have hne : key b ≠ key a := fun h => hb (h ▸ List.mem_map_of_mem ha)
      simp [hne, ih hl ha]

theorem sumWhere_perm {l m : List α} (h : l.Perm m) : sumWhere p f l = sumWhere p f m :=
  ((h.filter p).map f).sum_eq

end Lib
