import Mathlib.Data.List.Basic
import Mathlib.Tactic.SplitIfs

/-!
# Computations that return an error or panic

A function of type `Result<T, E>` ends with a value, with an error it returns, or
with a panic. Panics come from `expect` and from indexing.

Results:

* `NoPanic.bind`, `NoPanic.forM`: a computation does not panic if each step does
  not, given that the steps before it returned a value.
-/

namespace Lib

/-- What ends a computation before its value. -/
inductive Failure (ε : Type) where
  | error (e : ε)
  | panic (message : String)
deriving DecidableEq

/-- A computation that may panic. -/
abbrev Exec (ε α : Type) := Except (Failure ε) α

variable {ε α β : Type}

/-- A computation without panics among others. -/
def Exec.lift : Except ε α → Exec ε α
  | .ok a => .ok a
  | .error e => .error (.error e)

/-- `x.expect(message)`. -/
def Exec.expect (message : String) : Option α → Exec ε α
  | some a => .ok a
  | none => .error (.panic message)

/-- `l[i]`. -/
def Exec.index (l : List α) (i : ℕ) : Exec ε α := Exec.expect "index out of bounds" l[i]?

/-- `if rejected { return Err(e) }`. -/
def Exec.failIf (rejected : Prop) [Decidable rejected] (e : ε) : Exec ε Unit :=
  if rejected then .error (.error e) else .ok ()

namespace Exec

@[simp] theorem lift_eq_ok_iff {x : Except ε α} {a : α} : lift x = .ok a ↔ x = .ok a := by
  cases x <;> simp [lift]

@[simp] theorem expect_eq_ok_iff {message : String} {x : Option α} {a : α} :
    (expect message x : Exec ε α) = .ok a ↔ x = some a := by
  cases x <;> simp [expect]

@[simp] theorem failIf_eq_ok_iff {rejected : Prop} [Decidable rejected] {e : ε} {u : Unit} :
    failIf rejected e = .ok u ↔ ¬ rejected := by
  unfold failIf
  split_ifs with h <;> simp [h]

theorem failIf_of {rejected : Prop} [Decidable rejected] (h : rejected) (e : ε) :
    failIf rejected e = .error (.error e) := if_pos h

variable {rejected rejected' : Prop}

theorem failIf_congr [Decidable rejected] [Decidable rejected']
    (h : rejected ↔ rejected') (e : ε) : failIf rejected e = failIf rejected' e := by
  simp only [failIf, h]

/-- Two checks that return one error are one check. -/
theorem failIf_bind_failIf [Decidable rejected] [Decidable rejected']
    (e : ε) : (failIf rejected e >>= fun _ => failIf rejected' e)
      = failIf (rejected ∨ rejected') e := by
  by_cases h : rejected
  · rw [failIf_of h, failIf_of (Or.inl h : rejected ∨ rejected')]
    rfl
  · have hok : failIf rejected e = .ok () := failIf_eq_ok_iff.mpr h
    rw [hok]
    exact failIf_congr (by simp [h]) e

theorem lift_bind (x : Except ε α) (f : α → Except ε β) :
    lift (x >>= f) = lift x >>= fun a => lift (f a) := by
  cases x <;> rfl

theorem lift_forM (f : α → Except ε PUnit) (l : List α) :
    lift (l.forM f) = l.forM fun a => lift (f a) := by
  induction l with
  | nil => rfl
  | cons a l ih =>
    show lift (f a >>= fun _ => l.forM f) = lift (f a) >>= fun _ => l.forM fun a => lift (f a)
    rw [lift_bind, ← ih]

end Exec

/-! ## Freedom from panics -/

/-- The computation ends with a value or with an error. -/
def NoPanic (x : Exec ε α) : Prop := ∀ message, x ≠ .error (.panic message)

namespace NoPanic

@[simp] theorem ok (a : α) : NoPanic (.ok a : Exec ε α) := by
  intro message h
  exact nomatch h

@[simp] theorem lift (x : Except ε α) : NoPanic (Exec.lift x) := by
  intro message h
  cases x with
  | ok a => exact nomatch h
  | error e => exact nomatch h

@[simp] theorem failIf (rejected : Prop) [Decidable rejected] (e : ε) :
    NoPanic (Exec.failIf rejected e) := by
  intro message h
  unfold Exec.failIf at h
  split_ifs at h
  exact nomatch h

theorem expect {x : Option α} (h : x ≠ none) (message : String) :
    NoPanic (Exec.expect message x : Exec ε α) := by
  obtain ⟨a, rfl⟩ := Option.ne_none_iff_exists'.mp h
  exact ok a

theorem bind {x : Exec ε α} {f : α → Exec ε β} (hx : NoPanic x)
    (hf : ∀ a, x = .ok a → NoPanic (f a)) : NoPanic (x >>= f) := by
  intro message h
  cases hvalue : x with
  | ok a =>
    rw [hvalue] at h
    exact hf a hvalue message h
  | error failure =>
    rw [hvalue] at h
    have hfailure : failure = .panic message := by
      injection h
    exact hx message (by rw [hvalue, hfailure])

@[simp] theorem bind_iff {x : Exec ε α} {f : α → Exec ε β} :
    NoPanic (x >>= f) ↔ NoPanic x ∧ ∀ a, x = .ok a → NoPanic (f a) := by
  refine ⟨fun h => ⟨?_, ?_⟩, fun h => bind h.1 h.2⟩
  · rintro message rfl
    exact h message rfl
  · rintro a rfl
    exact h

/-- `x?; y` -/
theorem seq {x : Exec ε Unit} {y : Exec ε β} (hx : NoPanic x) (hy : NoPanic y) :
    NoPanic (x >>= fun _ => y) :=
  bind hx fun _ _ => hy

section

variable {f : α → Exec ε PUnit} {l : List α} (h : ∀ a ∈ l, NoPanic (f a))

include h

/-- A loop over a list. -/
theorem forM : NoPanic (l.forM f) := by
  induction l with
  | nil => exact ok _
  | cons a l ih =>
    have hcons : (a :: l).forM f = f a >>= fun _ => l.forM f := rfl
    rw [hcons]
    refine bind (h a List.mem_cons_self) ?_
    intro _ _
    exact ih fun b hb => h b (List.mem_cons_of_mem a hb)

@[simp] theorem forM_list : NoPanic (ForM.forM l f) :=
  forM h

end

end NoPanic

end Lib
