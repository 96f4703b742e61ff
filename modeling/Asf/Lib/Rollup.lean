import Mathlib.Data.List.AList
import Mathlib.Data.List.Induction

/-!
# Records rolled up by a key

A loop that reads records, some of which stop it, and puts each into a map, merged
with what the map has under its key.

Results:

* `foldlM_read_eq_ok_iff`: the loop ends well exactly if every record can be read,
  and then puts what was read into the map in order.
* `lookup_rollup`: what the map has under a key is the merge, from the left, of the
  values of that key alone, in order.
* `forall₂_valuesAt`: the values of a key come from the records of that key.
-/

namespace Lib

/-! ## Lists that correspond -/

section Corresponding

variable {α β : Type} {R : α → β → Prop} {l : List α} {l' : List β}

theorem forall_mem_iff_of_forall₂ {P : α → Prop} {Q : β → Prop} (h : List.Forall₂ R l l')
    (hiff : ∀ a b, R a b → (P a ↔ Q b)) : (∀ a ∈ l, P a) ↔ ∀ b ∈ l', Q b := by
  induction h with
  | nil => simp
  | cons hab _ ih => simp [hiff _ _ hab, ih]

/-- The last entries of lists that correspond. -/
theorem getLast?_of_forall₂ (h : List.Forall₂ R l l') :
    (l.getLast? = none ∧ l'.getLast? = none)
      ∨ ∃ a b, l.getLast? = some a ∧ l'.getLast? = some b ∧ R a b := by
  induction h with
  | nil => exact .inl ⟨rfl, rfl⟩
  | @cons a b l l' hab _ ih =>
    right
    rw [List.getLast?_cons, List.getLast?_cons]
    obtain ⟨hl, hl'⟩ | ⟨c, d, hl, hl', hcd⟩ := ih
    · exact ⟨a, b, by rw [hl]; rfl, by rw [hl']; rfl, hab⟩
    · exact ⟨c, d, by rw [hl]; rfl, by rw [hl']; rfl, hcd⟩

end Corresponding

/-! ## Reading and inserting in one loop -/

section Reading

variable {ε α β σ : Type} {read : α → Except ε β} {put : σ → β → σ}

/-- Reading each record and putting it where it belongs, or stopping at the first
    record that cannot be read. -/
theorem foldlM_read_eq_ok_iff {l : List α} {start result : σ} :
    l.foldlM (fun s a => do let b ← read a; .ok (put s b)) start = Except.ok result
      ↔ ∃ values, List.Forall₂ (fun a b => read a = .ok b) l values
        ∧ values.foldl put start = result := by
  induction l generalizing start with
  | nil => simp [pure, Except.pure]
  | cons a l ih =>
    simp only [List.foldlM_cons]
    cases hread : read a with
    | error e =>
      simp [bind, Except.bind, List.forall₂_cons_left_iff, hread]
    | ok b =>
      show l.foldlM _ (put start b) = Except.ok result ↔ _
      rw [ih]
      constructor
      · rintro ⟨bs, hbs, hresult⟩
        exact ⟨b :: bs, .cons hread hbs, hresult⟩
      · rintro ⟨_, hbs, hresult⟩
        cases hbs with
        | cons hb hbs =>
          cases hread.symm.trans hb
          exact ⟨_, hbs, hresult⟩

end Reading

/-! ## Merging by a key -/

section Merging

variable {κ ν : Type} [DecidableEq κ] (merge : ν → ν → ν) (map : AList fun _ : κ => ν)
  (records : List (κ × ν)) (k : κ)

/-- The value goes under its key, merged with the one that is there. -/
def mergeAt (record : κ × ν) : AList fun _ : κ => ν :=
  match map.lookup record.1 with
  | none => map.insert record.1 record.2
  | some current => map.insert record.1 (merge current record.2)

/-- The records one after another. -/
def rollup : AList fun _ : κ => ν := records.foldl (mergeAt merge) ∅

/-- The values of a key, in order. -/
def valuesAt (records : List (κ × ν)) : List ν :=
  (records.filter fun record => record.1 = k).map Prod.snd

/-- Values merged from the left. -/
def mergeAll : List ν → Option ν
  | [] => none
  | v :: rest => some (rest.foldl merge v)

variable {merge}

theorem lookup_mergeAt_self (v : ν) :
    (mergeAt merge map (k, v)).lookup k
      = some (((map.lookup k).map fun current => merge current v).getD v) := by
  unfold mergeAt
  cases map.lookup k <;> simp

theorem lookup_mergeAt_ne {map : AList fun _ : κ => ν} {k : κ} {record : κ × ν}
    (h : record.1 ≠ k) : (mergeAt merge map record).lookup k = map.lookup k := by
  unfold mergeAt
  cases map.lookup record.1 <;> exact AList.lookup_insert_ne (Ne.symm h)

theorem mergeAll_concat (l : List ν) (v : ν) :
    mergeAll merge (l ++ [v])
      = some (((mergeAll merge l).map fun current => merge current v).getD v) := by
  cases l with
  | nil => rfl
  | cons w l => simp [mergeAll]

/-- What the map has under a key depends on the values of that key alone. -/
theorem lookup_rollup : (rollup merge records).lookup k = mergeAll merge (valuesAt k records) := by
  -- The loop goes from the left, so the records grow at their end.
  induction records using List.reverseRecOn with
  | nil => rfl
  | append_singleton records record ih =>
    have hstep : rollup merge (records ++ [record])
        = mergeAt merge (rollup merge records) record := by
      simp [rollup]
    rw [hstep]
    by_cases h : record.1 = k
    · subst h
      rw [show record = (record.1, record.2) from rfl, lookup_mergeAt_self, ih]
      simp [valuesAt, mergeAll_concat]
    · rw [lookup_mergeAt_ne h, ih]
      simp [valuesAt, h]

@[simp] theorem valuesAt_append (records more : List (κ × ν)) :
    valuesAt k (records ++ more) = valuesAt k records ++ valuesAt k more := by
  simp [valuesAt]

/-- Records read from a list, and the values of a key among them. -/
theorem forall₂_valuesAt {α : Type} {R : α → κ × ν → Prop} {name : α → κ}
    (hname : ∀ a record, R a record → record.1 = name a) {l : List α} {records : List (κ × ν)}
    (h : List.Forall₂ R l records) (k : κ) :
    List.Forall₂ (fun a v => R a (k, v)) (l.filter fun a => name a = k) (valuesAt k records) := by
  induction h with
  | nil => exact .nil
  | @cons a record l records hrecord _ ih =>
    have hkey := hname a record hrecord
    by_cases hk : name a = k
    · have hhead : record.1 = k := hkey.trans hk
      have hvalue : R a (k, record.2) := by
        rw [← hhead]
        exact hrecord
      have hvalues : valuesAt k (record :: records) = record.2 :: valuesAt k records := by
        simp [valuesAt, hhead]
      rw [hvalues, List.filter_cons_of_pos (by simpa using hk)]
      exact .cons hvalue ih
    · have hhead : record.1 ≠ k := fun heq => hk (hkey.symm.trans heq)
      simpa [valuesAt, hk, hhead] using ih

end Merging

end Lib
