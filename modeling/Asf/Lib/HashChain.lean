import Mathlib.Data.List.Nodup
import Mathlib.Data.List.Induction
import Mathlib.Data.List.MinMax

/-!
# Chains linked by hashes

A list whose entries each name the hash of the entry before; the first names none.

Results:

* `eq_of_linked`: where no two entries share a hash, the hash of the last entry
  determines the chain.
* `Linked.forall_link_ne_iff`: the only entry that no entry names is the last.
* `Linked.link_eq_headHash`: an entry that names what no other names continues the chain.
* `forall_prefix_argmax_iff`: the entry of the greatest key is always the last exactly if
  the keys ascend.
-/

namespace Lib

variable {α κ : Type} (link : α → Option κ) (hash : α → κ)

/-- Each entry names the hash of the one before it, and the first names `expected`. -/
def Linked (expected : Option κ) : List α → Prop
  | [] => True
  | a :: rest => link a = expected ∧ Linked (some (hash a)) rest

/-- The hash of the last entry. -/
def headHash (l : List α) : Option κ := l.getLast?.map hash

variable {link hash} {l l' : List α} {a : α} {expected : Option κ} {i : ℕ}

@[simp] theorem headHash_nil : headHash hash [] = none := rfl

@[simp] theorem headHash_concat : headHash hash (l ++ [a]) = some (hash a) := by
  simp [headHash]

theorem headHash_eq_none_iff : headHash hash l = none ↔ l = [] := by
  simp [headHash]

theorem linked_concat_iff : Linked link hash expected (l ++ [a])
    ↔ Linked link hash expected l ∧ link a = (headHash hash l).or expected := by
  induction l generalizing expected with
  | nil => simp [Linked]
  | cons b rest ih =>
    have hhead : (headHash hash rest).or (some (hash b))
        = (headHash hash (b :: rest)).or expected := by
      rw [headHash, headHash, List.getLast?_cons]
      cases rest.getLast? <;> rfl
    rw [List.cons_append]
    simp only [Linked]
    rw [ih, hhead, and_assoc]

/-- A chain from the beginning continues with what names its last entry. -/
theorem linked_none_concat_iff : Linked link hash none (l ++ [a])
    ↔ Linked link hash none l ∧ link a = headHash hash l := by
  rw [linked_concat_iff, Option.or_none]

theorem Linked.getElem_succ (h : Linked link hash expected l) (hi : i + 1 < l.length) :
    link l[i + 1] = some (hash l[i]) := by
  induction l generalizing expected i with
  | nil => exact absurd hi (by simp)
  | cons b rest ih =>
    cases i with
    | zero =>
      cases rest with
      | nil => exact absurd hi (by simp)
      | cons c rest => exact h.2.1
    | succ i => exact ih h.2 (by simpa using hi)

theorem Linked.head? (h : Linked link hash expected l) (hfirst : l.head? = some a) :
    link a = expected := by
  cases l with
  | nil => cases hfirst
  | cons b rest =>
    obtain rfl : b = a := by simpa using hfirst
    exact h.1

theorem linked_map_iff {β : Type} {f : β → α} {entries : List β} :
    Linked link hash expected (entries.map f)
      ↔ Linked (fun b => link (f b)) (fun b => hash (f b)) expected entries := by
  induction entries generalizing expected with
  | nil => rfl
  | cons b rest ih => exact and_congr_right' ih

/-! ## The last hash determines the chain -/

/-- Two chains that end in the same hash are equal if no two different entries of them
    share a hash. -/
theorem eq_of_linked (hinj : ∀ a ∈ l, ∀ b ∈ l', hash a = hash b → a = b)
    (hl : Linked link hash none l) (hl' : Linked link hash none l')
    (hhead : headHash hash l = headHash hash l') : l = l' := by
  -- Backwards along the links: the last entries are equal, so they name the same hash,
  -- which is the last one of what precedes them.
  induction l using List.reverseRecOn generalizing l' with
  | nil => exact (headHash_eq_none_iff.mp hhead.symm).symm
  | append_singleton front a ih =>
    obtain rfl | ⟨front', b, rfl⟩ := l'.eq_nil_or_concat
    · simp at hhead
    · rw [List.concat_eq_append] at hl' hinj hhead ⊢
      obtain rfl : a = b := by
        apply hinj a (by simp) b (by simp)
        simpa using hhead
      rw [linked_none_concat_iff] at hl hl'
      have hfront := ih (fun c hc d hd => hinj c (by simp [hc]) d (by simp [hd])) hl.1 hl'.1
        (hl.2.symm.trans hl'.2)
      rw [hfront]

/-! ## The entry without a successor -/

theorem headHash_eq_getElem (hi : i + 1 = l.length) : headHash hash l = some (hash l[i]) := by
  rw [headHash, List.getLast?_eq_getElem?, show l.length - 1 = i by omega,
    List.getElem?_eq_getElem (by omega), Option.map_some]

/-- Every entry but the last is named by the one that follows it. -/
theorem Linked.exists_successor (h : Linked link hash expected l) (ha : a ∈ l)
    (hlast : headHash hash l ≠ some (hash a)) : ∃ b ∈ l, link b = some (hash a) := by
  obtain ⟨i, hi, rfl⟩ := List.mem_iff_getElem.mp ha
  have hnext : i + 1 < l.length := by
    by_contra hnot
    exact hlast (headHash_eq_getElem (by omega))
  exact ⟨l[i + 1], List.getElem_mem hnext, h.getElem_succ hnext⟩

section

variable (h : Linked link hash none l)
  (hnodup : (l.map hash).Nodup)

include h hnodup

/-- No entry names the last one. -/
theorem Linked.link_ne_headHash (ha : a ∈ l) : link a ≠ headHash hash l := by
  obtain ⟨i, hi, rfl⟩ := List.mem_iff_getElem.mp ha
  rw [headHash_eq_getElem (show l.length - 1 + 1 = l.length by omega)]
  cases i with
  | zero =>
    have hfirst : link l[0] = none := h.head? (List.head?_eq_getElem? ▸ List.getElem?_eq_getElem hi)
    rw [hfirst]
    simp
  | succ i =>
    rw [h.getElem_succ hi]
    intro heq
    have hlength : (l.map hash).length = l.length := List.length_map hash
    have hindex := hnodup.get_inj_iff.mp (show (l.map hash).get ⟨i, by omega⟩
      = (l.map hash).get ⟨l.length - 1, by omega⟩ by simpa using heq)
    have hlast : i = l.length - 1 := congrArg Fin.val hindex
    omega

/-- The only entry that no entry names is the last. -/
theorem Linked.forall_link_ne_iff (ha : a ∈ l) :
    (∀ b ∈ l, link b ≠ some (hash a)) ↔ headHash hash l = some (hash a) := by
  constructor
  · intro hnone
    by_contra hlast
    obtain ⟨b, hb, hlink⟩ := h.exists_successor ha hlast
    exact hnone b hb hlink
  · intro hlast b hb hlink
    exact h.link_ne_headHash hnodup hb (hlink.trans hlast.symm)

/-- A search for an entry that no entry names finds the last one. -/
theorem Linked.find?_map [DecidableEq κ] :
    (l.find? fun a => !l.any fun b => link b == some (hash a)).map hash = headHash hash l := by
  have hlone : ∀ a ∈ l, (!l.any fun b => link b == some (hash a)) = true
      ↔ headHash hash l = some (hash a) := by
    intro a ha
    rw [← h.forall_link_ne_iff hnodup ha]
    simp
  cases hfind : l.find? fun a => !l.any fun b => link b == some (hash a) with
  | none =>
    rw [List.find?_eq_none] at hfind
    cases hlast : l.getLast? with
    | none => rw [headHash, hlast, Option.map_none]
    | some a =>
      have ha := List.mem_of_getLast? hlast
      exact absurd ((hlone a ha).mpr (by rw [headHash, hlast, Option.map_some])) (hfind a ha)
  | some a =>
    have hfound := List.find?_some hfind
    exact ((hlone a (List.mem_of_find?_eq_some hfind)).mp hfound).symm

end

/-- What names an entry of the chain, or none, and names what no other does, names the
    last entry: the chain does not fork. -/
theorem Linked.link_eq_headHash (h : Linked link hash none l)
    (hknown : ∀ k, link a = some k → ∃ b ∈ l, hash b = k)
    (hunforked : ∀ b ∈ l, link b ≠ link a) : link a = headHash hash l := by
  cases hlink : link a with
  | none =>
    cases l with
    | nil => rfl
    | cons first rest => exact absurd (h.1.trans hlink.symm) (hunforked first (by simp))
  | some k =>
    obtain ⟨b, hb, rfl⟩ := hknown k hlink
    by_contra hlast
    obtain ⟨c, hc, hsuccessor⟩ := h.exists_successor hb (Ne.symm hlast)
    exact hunforked c hc (hsuccessor.trans hlink.symm)

/-! ## The last entry by a key -/

section Keys

variable {β : Type} [LinearOrder β] {key : α → β}

/-- After a new entry the greatest key is the new one exactly if it exceeds the others. -/
theorem argmax_concat_eq_iff (hfresh : ∀ b ∈ l, hash b ≠ hash a) :
    ((l ++ [a]).argmax key).map hash = some (hash a) ↔ ∀ b ∈ l, key b < key a := by
  rw [List.argmax_concat]
  cases hmax : l.argmax key with
  | none =>
    obtain rfl := List.argmax_eq_none.mp hmax
    simp
  | some c =>
    have hc : c ∈ l := List.argmax_mem hmax
    dsimp only
    split_ifs with hlt
    · simp only [Option.map_some, true_iff]
      exact fun b hb => (List.le_of_mem_argmax hb hmax).trans_lt hlt
    · simp only [Option.map_some, Option.some.injEq, hfresh c hc, false_iff]
      exact fun hall => hlt (hall c hc)

/-- The greatest key is that of the last entry, however long the list was, exactly if
    the keys ascend. -/
theorem forall_prefix_argmax_iff (hnodup : (l.map hash).Nodup) :
    (∀ front, front <+: l → (front.argmax key).map hash = headHash hash front)
      ↔ l.Pairwise (key · < key ·) := by
  induction l using List.reverseRecOn with
  | nil =>
    simp only [List.prefix_nil, forall_eq, List.Pairwise.nil, iff_true]
    rfl
  | append_singleton l a ih =>
    rw [List.map_append, List.nodup_append] at hnodup
    have hfresh : ∀ b ∈ l, hash b ≠ hash a := fun b hb =>
      hnodup.2.2 _ (List.mem_map_of_mem hb) _ (by simp)
    simp only [List.prefix_concat_iff, forall_eq_or_imp, headHash_concat,
      argmax_concat_eq_iff hfresh, ih hnodup.1, List.pairwise_append, List.pairwise_singleton,
      List.mem_singleton, forall_eq, true_and]
    exact and_comm

end Keys

end Lib
