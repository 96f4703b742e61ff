import Mathlib.Data.List.Nodup
import Mathlib.Data.List.Perm.Subperm
import Asf.Lib.Panicking

/-!
# Entries collected by a key

A loop that puts entries into a map and stops at the second entry of a key, the
entries it leaves, and lists whose entries correspond by their keys.

Results:

* `collect_eq_ok_iff`: the loop ends well exactly if the keys are distinct and
  each entry passes its check; the map then has the entries of the list.
* `find?_key_eq_some_iff`, `filter_key_eq_singleton`: looking up a key.
* `exists_perm_forall₂`: entries of two lists of one length that are found by
  distinct keys correspond one to one.
* `perm_iff_of_find`: when lists whose entries are found by a key have the same
  entries, if keys may repeat.
-/

namespace Lib

variable {α β κ ε : Type}

/-! ## The loop -/

section Loop

variable [DecidableEq κ] (key : α → κ) (twice : ε) (check : α → Except ε Unit)

/-- Entries are put into a map one after another; an entry whose key is there ends
    the loop, and so does one that fails the check. The map is the list of what
    was put into it. -/
def collect : List α → List α → Except ε (List α)
  | seen, [] => .ok seen
  | seen, a :: rest =>
    if key a ∈ seen.map key then .error twice
    else do
      check a
      collect (seen ++ [a]) rest

variable {key twice check}

/-- The loop from a map with entries. -/
theorem collect_from_eq_ok_iff {seen l entries : List α} :
    collect key twice check seen l = .ok entries ↔ entries = seen ++ l ∧ (l.map key).Nodup
      ∧ (∀ a ∈ l, key a ∉ seen.map key) ∧ ∀ a ∈ l, check a = .ok () := by
  induction l generalizing seen with
  | nil =>
    simp only [collect, Except.ok.injEq, List.append_nil, List.map_nil, List.nodup_nil,
      List.not_mem_nil, false_implies, implies_true, and_true]
    exact eq_comm
  | cons a l ih =>
    have hbind : (check a >>= fun _ => collect key twice check (seen ++ [a]) l) = .ok entries
        ↔ check a = .ok () ∧ collect key twice check (seen ++ [a]) l = .ok entries := by
      cases check a with
      | ok u => exact ⟨fun h => ⟨rfl, h⟩, fun h => h.2⟩
      | error e => exact ⟨fun h => (nomatch h), fun ⟨h, _⟩ => (nomatch h)⟩
    unfold collect
    split_ifs with hseen
    · refine ⟨fun h => (nomatch h), fun ⟨_, _, hfresh, _⟩ => ?_⟩
      exact absurd hseen (hfresh a List.mem_cons_self)
    · rw [hbind, ih]
      simp only [List.append_assoc, List.singleton_append, List.map_cons, List.nodup_cons,
        List.forall_mem_cons, List.map_append, List.map_nil, List.mem_append, List.mem_singleton]
      constructor
      · rintro ⟨ha, rfl, hnodup, hfresh, hcheck⟩
        refine ⟨rfl, ⟨?_, hnodup⟩, ⟨hseen, fun b hb => ?_⟩, ha, hcheck⟩
        · intro hmem
          obtain ⟨b, hb, hkey⟩ := List.mem_map.mp hmem
          exact hfresh b hb (.inr hkey)
        · exact fun h => hfresh b hb (.inl h)
      · rintro ⟨rfl, ⟨hnew, hnodup⟩, ⟨-, hfresh⟩, ha, hcheck⟩
        refine ⟨ha, rfl, hnodup, fun b hb => ?_, hcheck⟩
        rintro (h | h)
        · exact hfresh b hb h
        · exact hnew (h ▸ List.mem_map_of_mem hb)

theorem collect_eq_ok_iff {l entries : List α} :
    collect key twice check [] l = .ok entries
      ↔ entries = l ∧ (l.map key).Nodup ∧ ∀ a ∈ l, check a = .ok () := by
  rw [collect_from_eq_ok_iff]
  simp

end Loop

/-- The loop does not panic if no check does. -/
theorem NoPanic.collect [DecidableEq κ] {key : α → κ} {twice : ε} {check : α → Exec ε Unit}
    {seen l : List α} (h : ∀ a ∈ l, NoPanic (check a)) :
    NoPanic (Lib.collect key (.error twice) check seen l) := by
  induction l generalizing seen with
  | nil => exact ok seen
  | cons a l ih =>
    unfold Lib.collect
    split_ifs with hseen
    · intro message hpanic
      exact nomatch hpanic
    · refine bind (h a List.mem_cons_self) ?_
      intro _ _
      exact ih fun b hb => h b (List.mem_cons_of_mem a hb)

/-! ## Looking up a key -/

section Lookup

variable [DecidableEq κ] {key : α → κ} {l : List α} {a : α}

theorem find?_key_eq_some_iff (h : (l.map key).Nodup) {k : κ} :
    l.find? (fun b => key b == k) = some a ↔ a ∈ l ∧ key a = k := by
  constructor
  · intro hfind
    exact ⟨List.mem_of_find?_eq_some hfind, by simpa using List.find?_some hfind⟩
  · rintro ⟨hmem, rfl⟩
    cases hfind : l.find? (fun b => key b == key a) with
    | none => exact absurd (List.find?_eq_none.mp hfind a hmem) (by simp)
    | some b =>
      have hb : key b = key a := by simpa using List.find?_some hfind
      rw [List.inj_on_of_nodup_map h (List.mem_of_find?_eq_some hfind) hmem hb]

/-- Among distinct keys the entry of a key is the only one. -/
theorem filter_key_eq_singleton (h : (l.map key).Nodup) (ha : a ∈ l) :
    l.filter (fun b => key b == key a) = [a] := by
  have hnodup : l.Nodup := h.of_map key
  rw [← List.perm_singleton, List.perm_ext_iff_of_nodup (hnodup.filter _) (List.nodup_singleton a)]
  intro b
  simp only [List.mem_filter, beq_iff_eq, List.mem_singleton]
  constructor
  · rintro ⟨hb, hkey⟩
    exact List.inj_on_of_nodup_map h hb ha hkey
  · rintro rfl
    exact ⟨ha, rfl⟩

end Lookup

/-! ## Correspondence -/

/-- Two lists of one length: if each entry of the first, by its own key, finds an
    entry of the second, then these are all the entries of the second. -/
theorem exists_perm_forall₂ {xs : List α} {ys : List β} {f : α → κ} {g : β → κ}
    {R : α → β → Prop} (hkeys : (xs.map f).Nodup) (hlength : xs.length = ys.length)
    (hfind : ∀ x ∈ xs, ∃ y ∈ ys, g y = f x ∧ R x y) : ∃ zs, zs.Perm ys ∧ List.Forall₂ R xs zs := by
  classical
  have hchoice : ∃ zs : List β, zs ⊆ ys ∧ zs.map g = xs.map f ∧ List.Forall₂ R xs zs := by
    clear hkeys hlength
    induction xs with
    | nil => exact ⟨[], by simp, rfl, .nil⟩
    | cons x xs ih =>
      obtain ⟨zs, hsubset, hmap, hrel⟩ := ih fun x' hx' => hfind x' (List.mem_cons_of_mem x hx')
      obtain ⟨y, hy, hkey, hxy⟩ := hfind x List.mem_cons_self
      exact ⟨y :: zs, List.cons_subset.mpr ⟨hy, hsubset⟩, by simp [hkey, hmap], .cons hxy hrel⟩
  obtain ⟨zs, hsubset, hmap, hrel⟩ := hchoice
  have hnodup : zs.Nodup := by
    rw [← hmap] at hkeys
    exact List.Nodup.of_map g hkeys
  have hlengths : ys.length ≤ zs.length := by
    have hrelLength := hrel.length_eq
    omega
  exact ⟨zs, (hnodup.subperm hsubset).perm_of_length_le hlengths, hrel⟩

/-- Two lists of one length, where each entry of the second is found in the first by a
    key that need not tell the entries apart. The lists have the same entries exactly if
    the first has no others, and has the same ones wherever the second repeats a key. -/
theorem perm_iff_of_find [DecidableEq α] [DecidableEq κ] {xs ys : List α} (key : α → κ)
    (hlength : xs.length = ys.length) (hfind : ∀ y ∈ ys, ∃ x ∈ xs, key x = key y) :
    xs.Perm ys ↔ (∀ x ∈ xs, x ∈ ys)
      ∧ ∀ k, 2 ≤ (ys.filter fun y => key y = k).length →
        (xs.filter fun x => key x = k).Perm (ys.filter fun y => key y = k) := by
  constructor
  · intro h
    exact ⟨fun x hx => h.subset hx, fun k _ => h.filter _⟩
  · rintro ⟨hsubset, hrepeated⟩
    suffices hcount : ∀ y ∈ ys, ys.count y ≤ xs.count y by
      exact ((List.subperm_ext_iff.mpr hcount).perm_of_length_le (by omega)).symm
    intro y hy
    have hself : y ∈ ys.filter fun y' => key y' = key y := by simpa using hy
    by_cases htwo : 2 ≤ (ys.filter fun y' => key y' = key y).length
    · have hperm := (hrepeated (key y) htwo).count_eq y
      rw [List.count_filter (by simp), List.count_filter (by simp)] at hperm
      omega
    · -- The key is that of one entry only, so what was found by it is that entry.
      obtain ⟨z, hz⟩ : ∃ z, (ys.filter fun y' => key y' = key y) = [z] := by
        rw [← List.length_eq_one_iff]
        have hpos := List.length_pos_of_mem hself
        omega
      obtain rfl : y = z := by simpa [hz] using hself
      obtain ⟨x, hx, hkey⟩ := hfind y hy
      have hxy : x ∈ ys.filter fun y' => key y' = key y := by
        simpa [hkey] using hsubset x hx
      obtain rfl : x = y := by simpa [hz] using hxy
      have hone : ys.count x = 1 := by
        rw [← List.count_filter (p := fun y' => decide (key y' = key x)) (by simp), hz]
        simp
      rw [hone]
      exact List.count_pos_iff.mpr hx

/-- Corresponding rows have the same keys. -/
theorem map_eq_map_of_forall₂ {α β γ : Type} {R : α → β → Prop} {f : α → γ} {g : β → γ}
    (hR : ∀ a b, R a b → f a = g b) {xs : List α} {ys : List β} (h : List.Forall₂ R xs ys) :
    xs.map f = ys.map g := by
  induction h with
  | nil => rfl
  | cons hab _ ih => rw [List.map_cons, List.map_cons, hR _ _ hab, ih]

end Lib
