import Mathlib.Data.List.Sort

/-!
# Sorting by a total preorder

Results:

* `head?_insertionSort_eq_some`: the first item of a sorted list precedes every item.
-/

namespace Lib

variable {α : Type} {r : α → α → Prop} [DecidableRel r] {l : List α}

theorem head?_insertionSort_eq_some [Std.Total r] [IsTrans α r] {a : α}
    (h : (l.insertionSort r).head? = some a) : a ∈ l ∧ ∀ b ∈ l, r a b := by
  have hsorted := List.pairwise_insertionSort r l
  cases hl : l.insertionSort r with
  | nil => simp [hl] at h
  | cons c rest =>
    obtain rfl : c = a := by simpa [hl] using h
    have hmem (b : α) : b ∈ l ↔ b = c ∨ b ∈ rest := by
      rw [← List.mem_insertionSort r, hl, List.mem_cons]
    rw [hl, List.pairwise_cons] at hsorted
    refine ⟨(hmem c).mpr (.inl rfl), fun b hb => ?_⟩
    rcases (hmem b).mp hb with rfl | hb
    · exact (Std.Total.total (r := r) b b).elim id id
    · exact hsorted.1 b hb

theorem head?_insertionSort_eq_none : (l.insertionSort r).head? = none ↔ l = [] := by
  rw [List.head?_eq_none_iff, ← List.length_eq_zero_iff, List.length_insertionSort,
    List.length_eq_zero_iff]

end Lib
