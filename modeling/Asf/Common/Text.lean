import Mathlib.Data.Finset.Sort
import Mathlib.Data.List.TakeWhile
import Asf.Common.Basic

/-!
# Text checks of the contracts

The `str` and `char` functions the validators use, the iteration order of a
`BTreeSet<String>`, and checks made one after another.
-/

namespace Asf

/-! ## `char` and `str` -/

/-- `char::is_control` (the Unicode category `Cc`). -/
def isControl (c : Char) : Bool := c.toNat < 32 || (127 ≤ c.toNat && c.toNat < 160)

variable (value : String) {α ε : Type} {l : List α}

/-- `value.chars().any(char::is_control)`. -/
def hasControl : Bool := value.toList.any isControl

/-- `value.contains(c)`. -/
def hasChar (c : Char) : Bool := value.toList.contains c

/-- `value.starts_with(start)`. -/
def startsWith (value start : String) : Bool := start.toList.isPrefixOf value.toList

/-- `value.ends_with(last)`. -/
def endsWith (value last : String) : Bool := last.toList.isSuffixOf value.toList

/-- `value.split('/')`. -/
def splitSlash : List String := (value.toList.splitOn '/').map String.ofList

/-- `value.split_once(separator)`. -/
def splitOnce (separator : Char) (value : String) : Option (String × String) :=
  match value.toList.dropWhile (· != separator) with
  | [] => none
  | _ :: rest =>
    some (String.ofList (value.toList.takeWhile (· != separator)), String.ofList rest)

/-- `value.trim().is_empty() || value.chars().any(char::is_control)`. -/
def isUnreadable : Bool := isBlank value || hasControl value

/-! ## `BTreeSet<String>` -/

/-- The items of a set in the order `BTreeSet` iterates: by code points, which is
    the order of the UTF-8 bytes. -/
def ascending (items : Finset String) : List String := items.sort (· ≤ ·)

@[simp] theorem mem_ascending {items : Finset String} {value : String} :
    value ∈ ascending items ↔ value ∈ items := by
  simp [ascending]

/-! ## Checks one after another -/

/-- `x?; y` -/
theorem exists_unit_iff {P : Unit → Prop} : (∃ u, P u) ↔ P () :=
  ⟨fun ⟨⟨⟩, h⟩ => h, fun h => ⟨(), h⟩⟩

@[simp] theorem mapError_eq_ok_iff {ε ε' α : Type} {x : Except ε α} {f : ε → ε'} {a : α} :
    x.mapError f = .ok a ↔ x = .ok a := by
  cases x <;> simp [Except.mapError]

theorem ok_bind {ε α β : Type} (a : α) (f : α → Except ε β) : (Except.ok a >>= f) = f a := rfl

theorem pure_eq_ok_iff {ε α : Type} {a b : α} : (pure a : Except ε α) = .ok b ↔ a = b :=
  Except.ok.injEq a b ▸ Iff.rfl

theorem seq_eq_ok_iff {ε : Type} {x : Except ε Unit} {y : Unit → Except ε Unit} :
    (x >>= y) = .ok () ↔ x = .ok () ∧ y () = .ok () := by
  rw [bind_eq_ok_iff]
  exact ⟨fun ⟨⟨⟩, h⟩ => h, fun h => ⟨(), h⟩⟩

/-- `for a in l { f(a)?; }` -/
theorem forM_eq_ok_iff {f : α → Except ε Unit} : l.forM f = .ok () ↔ ∀ a ∈ l, f a = .ok () := by
  induction l with
  | nil => simp [pure, Except.pure]
  | cons a l ih =>
    have hcons : (a :: l).forM f = f a >>= fun _ => l.forM f := rfl
    rw [hcons, seq_eq_ok_iff, List.forall_mem_cons, ← ih]

/-- The same for a loop as `simp` writes it. -/
theorem forM_list_eq_ok_iff {f : α → Except ε Unit} :
    forM l f = .ok () ↔ ∀ a ∈ l, f a = .ok () := forM_eq_ok_iff

/-- Splitting at the first slash and then going on. -/
theorem splitSlash_eq_of_splitOnce :
    splitSlash value = match splitOnce '/' value with
      | none => [value]
      | some (first, rest) => first :: splitSlash rest := by
  have hjoin : value.toList.takeWhile (· != '/') ++ value.toList.dropWhile (· != '/')
      = value.toList := List.takeWhile_append_dropWhile
  have hfirst : '/' ∉ value.toList.takeWhile (· != '/') :=
    fun hmem => absurd (List.mem_takeWhile_imp hmem) (by decide)
  cases hrest : value.toList.dropWhile (· != '/') with
  | nil =>
    rw [hrest, List.append_nil] at hjoin
    rw [splitOnce, hrest, splitSlash, List.splitOn_eq_singleton (hjoin ▸ hfirst)]
    simp
  | cons c rest =>
    have hc : c = '/' := by
      have hhead := List.head_dropWhile_not (· != '/') (hrest ▸ List.cons_ne_nil c rest)
      simpa [hrest] using hhead
    subst hc
    have hsplit : value.toList.splitOn '/'
        = value.toList.takeWhile (· != '/') :: rest.splitOn '/' := by
      conv_lhs => rw [← hjoin, hrest]
      exact List.splitOn_append_cons_self_of_not_mem hfirst rest
    rw [splitOnce, hrest, splitSlash, hsplit]
    simp [splitSlash]

theorem splitSlash_ne_nil : splitSlash value ≠ [] := by
  simp [splitSlash]

theorem splitOnce_eq_none_iff {separator : Char} {value : String} :
    splitOnce separator value = none ↔ hasChar value separator = false := by
  have hdrop : value.toList.dropWhile (· != separator) = [] ↔ separator ∉ value.toList := by
    rw [List.dropWhile_eq_nil_iff]
    simp only [bne_iff_ne, ne_eq]
    exact ⟨fun h hmem => h separator hmem rfl, fun h c hc heq => h (heq ▸ hc)⟩
  rw [hasChar, Bool.eq_false_iff, ne_eq, List.contains_iff_mem, ← hdrop, splitOnce]
  cases value.toList.dropWhile (· != separator) <;> simp

end Asf
