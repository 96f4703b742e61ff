import Mathlib.Data.List.Nodup
import Mathlib.Data.List.Pairwise

/-!
# Tables with a primary key

A table is a list of rows in which no two rows have the same key. `update` is
`UPDATE … SET … WHERE …` for an assignment that leaves the key alone and
`insert?` is `INSERT`, which fails on a key that is already there.

Results:

* `find?_eq_some_iff`: a lookup returns the row with that key.
* `find?_update`, `find?_insert`: what a lookup sees after a statement.
* `filter_eq_toList`: the rows a statement keyed by `k` can touch.
* `updateOne_cases`: what an update of one row has found and written.
* `insertOrMatch_cases`: an idempotent insert adds its row or finds it there.
* `Indexed.eq_of_conflicts`: a table with several unique indexes holds one row for
  each value of each.
-/

namespace Lib

/-- Rows with pairwise distinct keys. -/
structure Table (α : Type*) {κ : Type*} (key : α → κ) where
  rows : List α
  unique : (rows.map key).Nodup

namespace Table

variable {α κ : Type*} {key : α → κ} {k : κ} {r : α}

/-- The table without rows. -/
def empty : Table α key := ⟨[], by simp⟩

theorem ext' {t u : Table α key} (h : t.rows = u.rows) : t = u := by
  cases t
  cases u
  simp_all

instance [DecidableEq α] : DecidableEq (Table α key) := fun t u =>
  decidable_of_iff (t.rows = u.rows) ⟨ext', fun h => h ▸ rfl⟩

theorem eq_of_key_eq {t : Table α key} {a b : α} (ha : a ∈ t.rows) (hb : b ∈ t.rows)
    (h : key a = key b) : a = b :=
  List.inj_on_of_nodup_map t.unique ha hb h

section Lookup

variable [DecidableEq κ]

/-- The row with key `k`. -/
def find? (t : Table α key) (k : κ) : Option α := t.rows.find? fun r => decide (key r = k)

theorem find?_eq_some_iff {t : Table α key} : t.find? k = some r ↔ r ∈ t.rows ∧ key r = k := by
  constructor
  · intro h
    exact ⟨List.mem_of_find?_eq_some h, by simpa using List.find?_some h⟩
  · rintro ⟨hr, rfl⟩
    have hsome : (t.find? (key r)).isSome := by
      rw [find?, List.find?_isSome]
      exact ⟨r, hr, by simp⟩
    obtain ⟨r', hr'⟩ := Option.isSome_iff_exists.mp hsome
    have hkey : key r' = key r := by simpa using List.find?_some hr'
    rw [hr', eq_of_key_eq (List.mem_of_find?_eq_some hr') hr hkey]

theorem find?_key_of_mem {t : Table α key} (h : r ∈ t.rows) : t.find? (key r) = some r :=
  find?_eq_some_iff.mpr ⟨h, rfl⟩

theorem mem_of_find? {t : Table α key} (h : t.find? k = some r) : r ∈ t.rows :=
  (find?_eq_some_iff.mp h).1

theorem key_of_find? {t : Table α key} (h : t.find? k = some r) : key r = k :=
  (find?_eq_some_iff.mp h).2

theorem find?_eq_none_iff {t : Table α key} : t.find? k = none ↔ ∀ r ∈ t.rows, key r ≠ k := by
  simp [find?, List.find?_eq_none]

/-- The rows a predicate on the row with key `k` selects. -/
theorem filter_eq_toList {t : Table α key} (k : κ) (p : α → Bool) (hp : ∀ r, p r → key r = k) :
    t.rows.filter p = ((t.find? k).filter p).toList := by
  obtain ⟨rows, unique⟩ := t
  simp only [find?]
  induction rows with
  | nil => rfl
  | cons a rows ih =>
    simp only [List.map_cons, List.nodup_cons] at unique
    by_cases hk : key a = k
    · have hrest : rows.filter p = [] := by
        rw [List.filter_eq_nil_iff]
        intro r hr hpr
        exact unique.1 (hk.trans (hp r hpr).symm ▸ List.mem_map_of_mem hr)
      rw [List.find?_cons_of_pos (by simpa using hk)]
      by_cases hpa : p a
      · rw [List.filter_cons_of_pos hpa, hrest]
        simp [Option.filter, hpa]
      · rw [List.filter_cons_of_neg hpa, hrest]
        simp [Option.filter, hpa]
    · have hpa : ¬ p a := fun h => hk (hp a h)
      rw [List.find?_cons_of_neg (by simpa using hk), List.filter_cons_of_neg hpa]
      exact ih unique.2

end Lookup

/-! ## `UPDATE` -/

/-- `UPDATE … SET … WHERE p`. -/
def update (t : Table α key) (p : α → Bool) (f : α → α) (hf : ∀ r, key (f r) = key r) :
    Table α key where
  rows := t.rows.map fun r => if p r then f r else r
  unique := by
    have : (t.rows.map fun r => if p r then f r else r).map key = t.rows.map key := by
      rw [List.map_map]
      apply List.map_congr_left
      intro r _
      simp only [Function.comp_apply]
      split
      · exact hf r
      · rfl
    rw [this]
    exact t.unique

variable {t : Table α key} {p : α → Bool} {f : α → α} {hf : ∀ r, key (f r) = key r}

theorem find?_update [DecidableEq κ] (k : κ) :
    (t.update p f hf).find? k = (t.find? k).map fun r => if p r then f r else r := by
  have hcomp : (fun r => decide (key r = k)) ∘ (fun r => if p r then f r else r) =
      fun r => decide (key r = k) := by
    funext r
    simp only [Function.comp_apply]
    split
    · rw [hf]
    · rfl
  rw [find?, update, List.find?_map, hcomp, find?]

theorem mem_update : r ∈ (t.update p f hf).rows ↔ ∃ r₀ ∈ t.rows, (if p r₀ then f r₀ else r₀) = r :=
  List.mem_map

theorem update_eq_self (h : ∀ r ∈ t.rows, ¬ p r) : t.update p f hf = t := by
  apply ext'
  simp only [update]
  conv_rhs => rw [← List.map_id t.rows]
  apply List.map_congr_left
  intro r hr
  simp [h r hr]

/-- `RETURNING`: the rows that an update of the rows with `p` has written. -/
theorem filter_update (hp : ∀ r, p (f r) = p r) :
    (t.update p f hf).rows.filter p = (t.rows.filter p).map f := by
  simp only [update]
  induction t.rows with
  | nil => rfl
  | cons r rows ih =>
    by_cases h : p r
    · simp [h, hp, ih]
    · simp [h, ih]

/-! ## Writing one row -/

section Set

variable [DecidableEq κ] {guard : α → Bool}

/-- The table with `row` in the place of the row with its key. -/
def set (t : Table α key) (row : α) : Table α key :=
  t.update (fun r => decide (key r = key row)) (fun r => if key r = key row then row else r) (by
    intro r
    split_ifs with h
    · exact h.symm
    · rfl)

theorem find?_set (row : α) (k : κ) :
    (t.set row).find? k = if key row = k then (t.find? k).map fun _ => row else t.find? k := by
  rw [set, find?_update]
  cases hr : t.find? k with
  | none => simp
  | some r =>
    have hk := key_of_find? hr
    subst hk
    by_cases h : key row = key r
    · simp [h]
    · simp [h, Ne.symm h]

theorem find?_set_self {row r : α} (h : t.find? (key row) = some r) :
    (t.set row).find? (key row) = some row := by
  rw [find?_set, if_pos rfl, h, Option.map_some]

theorem mem_of_mem_set {row r : α} (h : r ∈ (t.set row).rows) :
    r = row ∨ r ∈ t.rows ∧ key r ≠ key row := by
  obtain ⟨r₀, hr₀, hr⟩ := mem_update.mp h
  by_cases hk : key r₀ = key row
  · exact .inl (by simpa [hk] using hr.symm)
  · obtain rfl : r₀ = r := by simpa [hk] using hr
    exact .inr ⟨hr₀, hk⟩

/-- `UPDATE … WHERE key = k AND guard RETURNING …`; `f` is the new row or the
    error of a constraint. -/
def updateOne {ε : Type*} (t : Table α key) (k : κ) (guard : α → Bool) (f : α → Except ε α) :
    Except ε (Option α × Table α key) :=
  match (t.find? k).filter guard with
  | none => .ok (none, t)
  | some r =>
    match f r with
    | .error e => .error e
    | .ok r' => .ok (some r', t.set r')

theorem updateOne_eq_some_iff {ε : Type*} {f : α → Except ε α} {r' : α} {u : Table α key} :
    t.updateOne k guard f = .ok (some r', u) ↔
      ∃ r, t.find? k = some r ∧ guard r ∧ f r = .ok r' ∧ u = t.set r' := by
  unfold updateOne
  cases hr : t.find? k with
  | none => simp [Option.filter]
  | some r =>
    by_cases hg : guard r
    · simp only [Option.filter, hg, if_true]
      cases hf : f r with
      | error e => simp [hf]
      | ok r'' =>
        constructor
        · intro h
          obtain ⟨rfl, rfl⟩ : r'' = r' ∧ t.set r'' = u := by simpa using h
          exact ⟨r, rfl, hg, hf, rfl⟩
        · rintro ⟨_, ⟨⟩, -, hf', rfl⟩
          cases hf.symm.trans hf'
          rfl
    · simp [Option.filter, hg]

theorem updateOne_eq_none_iff {ε : Type*} {f : α → Except ε α} {u : Table α key} :
    t.updateOne k guard f = .ok (none, u) ↔ (t.find? k).filter guard = none ∧ u = t := by
  unfold updateOne
  cases (t.find? k).filter guard with
  | none => simp [eq_comm]
  | some r => cases hf : f r <;> simp [hf]

/-- An update of one row that leaves the key alone changes that row only. -/
theorem updateOne_cases {ε : Type*} {f : α → Except ε α} {r' : α}
    {u : Table α key} (h : t.updateOne k guard f = .ok (some r', u))
    (hkey : ∀ r r', f r = .ok r' → key r' = key r) :
    ∃ r, t.find? k = some r ∧ guard r ∧ f r = .ok r' ∧ u.find? k = some r' ∧
      ∀ k', k' ≠ k → u.find? k' = t.find? k' := by
  obtain ⟨r, hr, hguard, hf, rfl⟩ := updateOne_eq_some_iff.mp h
  obtain rfl : key r' = k := (hkey r r' hf).trans (key_of_find? hr)
  refine ⟨r, hr, hguard, hf, find?_set_self hr, fun k' hk' => ?_⟩
  rw [find?_set, if_neg (Ne.symm hk')]

end Set

/-! ## `INSERT` -/

/-- `INSERT` of a row whose key is new. -/
def insert (t : Table α key) (r : α) (h : key r ∉ t.rows.map key) : Table α key where
  rows := t.rows ++ [r]
  unique := by
    rw [List.map_append, List.nodup_append]
    refine ⟨t.unique, by simp, ?_⟩
    intro a ha b hb hab
    simp only [List.map_cons, List.map_nil, List.mem_singleton] at hb
    exact h (hb ▸ hab ▸ ha)

/-- `INSERT`: `none` on a key that is already there. -/
def insert? [DecidableEq κ] (t : Table α key) (r : α) : Option (Table α key) :=
  if h : key r ∈ t.rows.map key then none else some (t.insert r h)

@[simp] theorem rows_insert (r : α) (h : key r ∉ t.rows.map key) :
    (t.insert r h).rows = t.rows ++ [r] := rfl

theorem find?_insert [DecidableEq κ] (r : α) (h : key r ∉ t.rows.map key) (k : κ) :
    (t.insert r h).find? k = (t.find? k).or (if key r = k then some r else none) := by
  rw [find?, rows_insert, List.find?_append, find?]
  congr 1
  by_cases hk : key r = k <;> simp [hk]

theorem insert?_eq_some_iff [DecidableEq κ] {u : Table α key} :
    t.insert? r = some u ↔ ∃ h : key r ∉ t.rows.map key, t.insert r h = u := by
  unfold insert?
  split
  · rename_i h
    simp only [reduceCtorEq, false_iff, not_exists]
    exact fun h' => absurd h h'
  · rename_i h
    simp [h]

/-- `INSERT … ON CONFLICT (other key) DO UPDATE SET key = key WHERE same RETURNING …`:
    whether a row came back, and the table. -/
def insertOrMatch [DecidableEq κ] {ε : Type*} (duplicate : ε) (t : Table α key)
    (conflicts same : α → Bool) (row : α) : Except ε (Bool × Table α key) :=
  match t.rows.find? conflicts with
  | some r => .ok (same r, t)
  | none =>
    match t.insert? row with
    | none => .error duplicate
    | some t' => .ok (true, t')

/-- An idempotent insert that returns a row has found one that is the same, or
    has added its own. -/
theorem insertOrMatch_cases [DecidableEq κ] {ε : Type*} {duplicate : ε}
    {conflicts same : α → Bool} {row : α} {u : Table α key}
    (h : t.insertOrMatch duplicate conflicts same row = .ok (true, u)) :
    (u = t ∧ ∃ r ∈ t.rows, conflicts r ∧ same r) ∨
      ∃ hnew : key row ∉ t.rows.map key, u = t.insert row hnew := by
  unfold insertOrMatch at h
  cases hr : t.rows.find? conflicts with
  | some r =>
    rw [hr] at h
    obtain ⟨hsame, rfl⟩ : same r = true ∧ t = u := by simpa using h
    exact .inl ⟨rfl, r, List.mem_of_find?_eq_some hr, List.find?_some hr, hsame⟩
  | none =>
    rw [hr] at h
    cases hi : t.insert? row with
    | none => simp [hi] at h
    | some t' =>
      obtain rfl : t' = u := by simpa [hi] using h
      obtain ⟨hnew, rfl⟩ := insert?_eq_some_iff.mp hi
      exact .inr ⟨hnew, rfl⟩

theorem find?_eq_none_of_notMem [DecidableEq κ] (h : k ∉ t.rows.map key) : t.find? k = none := by
  rw [find?_eq_none_iff]
  intro r hr hk
  exact h (hk ▸ List.mem_map_of_mem hr)

end Table

/-! ## Several unique indexes -/

/-- Rows of which no two conflict: `conflicts` is what the unique indexes of a
    table forbid. -/
structure Indexed (α : Type*) (conflicts : α → α → Bool) where
  rows : List α
  unique : rows.Pairwise fun a b => conflicts a b = false

namespace Indexed

variable {α : Type*} {conflicts : α → α → Bool} {t u : Indexed α conflicts} {row a b : α}

/-- The table without rows. -/
def empty : Indexed α conflicts := ⟨[], .nil⟩

theorem ext' (h : t.rows = u.rows) : t = u := by
  cases t
  cases u
  simp_all

instance [DecidableEq α] : DecidableEq (Indexed α conflicts) := fun t u =>
  decidable_of_iff (t.rows = u.rows) ⟨ext', fun h => h ▸ rfl⟩

/-- `INSERT … ON CONFLICT DO NOTHING RETURNING …`: `none` when no row came back. -/
def insert? (t : Indexed α conflicts) (row : α) : Option (Indexed α conflicts) :=
  if h : t.rows.any (conflicts · row) then none
  else some ⟨t.rows ++ [row], by
    simp only [List.any_eq_true, not_exists, not_and, Bool.not_eq_true] at h
    rw [List.pairwise_append]
    exact ⟨t.unique, List.pairwise_singleton ..,
      fun a ha b hb => List.mem_singleton.mp hb ▸ h a ha⟩⟩

theorem insert?_eq_some_iff :
    t.insert? row = some u ↔
      (∀ r ∈ t.rows, conflicts r row = false) ∧ u.rows = t.rows ++ [row] := by
  unfold insert?
  split_ifs with h
  · simp only [List.any_eq_true] at h
    obtain ⟨r, hr, hconflicts⟩ := h
    simp only [false_iff, not_and]
    exact fun hfree => absurd (hfree r hr) (by simp [hconflicts])
  · simp only [List.any_eq_true, not_exists, not_and, Bool.not_eq_true] at h
    constructor
    · intro hu
      exact ⟨h, by rw [← Option.some.inj hu]⟩
    · rintro ⟨-, hu⟩
      exact congrArg some (ext' hu.symm)

theorem insert?_eq_none_iff : t.insert? row = none ↔ ∃ r ∈ t.rows, conflicts r row := by
  unfold insert?
  split_ifs with h <;> simpa using h

theorem eq_of_conflicts (hsymm : ∀ a b, conflicts a b = conflicts b a) (ha : a ∈ t.rows)
    (hb : b ∈ t.rows) (h : conflicts a b) : a = b := by
  by_contra hne
  have : Std.Symm fun a b => conflicts a b = false := ⟨fun a b hab => (hsymm b a).trans hab⟩
  exact absurd (t.unique.forall ha hb hne) (by simp [h])

end Indexed
end Lib
