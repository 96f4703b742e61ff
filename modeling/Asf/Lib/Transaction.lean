import Mathlib.Data.List.Induction

/-!
# Transactions

A transaction reads and writes a state and can fail. `Commits x s a s'` says
that `x`, started in `s`, commits with answer `a` and leaves `s'`; `atomically`
runs `x` as one step, which leaves the state alone when `x` fails.

Results:

* `commits_bind` and its companions: a committed transaction is a committed
  first statement followed by a committed rest.
* `forM_invariant`, `mapM_invariant`: the loop rules.
* `atomically_cases`: an atomic step commits or leaves the state alone.
-/

namespace Lib

/-- A computation over a state `σ` that can fail with `ε`. -/
abbrev Transaction (σ ε α : Type) := StateT σ (Except ε) α

variable {σ ε α β : Type}

namespace Transaction

/-- `x?` for a result that does not depend on the state. -/
def ofExcept (x : Except ε α) : Transaction σ ε α := fun s => x.map fun a => (a, s)

/-- `x.ok_or_else(|| e)?`. -/
def orFail (e : ε) : Option α → Transaction σ ε α
  | some a => pure a
  | none => throw e

/-- Reading the state. -/
def read (f : σ → α) : Transaction σ ε α := fun s => .ok (f s, s)

end Transaction

/-- `x` started in `s` commits with answer `a` in `s'`. -/
def Commits (x : Transaction σ ε α) (s : σ) (a : α) (s' : σ) : Prop := x s = .ok (a, s')

variable {x : Transaction σ ε α} {f : α → Transaction σ ε β} {l : List α}

section Statements

variable {s s' : σ} {a : α} {b : β} {e : ε}

@[simp] theorem commits_pure {a₀ : α} :
    Commits (pure a₀ : Transaction σ ε α) s a s' ↔ a = a₀ ∧ s' = s := by
  show (Except.ok (a₀, s) : Except ε (α × σ)) = .ok (a, s') ↔ _
  simp [eq_comm]

@[simp] theorem commits_bind :
    Commits (x >>= f) s b s' ↔ ∃ a s₁, Commits x s a s₁ ∧ Commits (f a) s₁ b s' := by
  unfold Commits
  simp only [bind, StateT.bind]
  cases h : x s with
  | error e => simp [Except.bind]
  | ok r =>
    obtain ⟨a, s₁⟩ := r
    simp only [Except.bind, Except.ok.injEq, Prod.mk.injEq]
    exact ⟨fun h => ⟨a, s₁, ⟨rfl, rfl⟩, h⟩, fun ⟨_, _, ⟨ha, hs⟩, h⟩ => ha ▸ hs ▸ h⟩

@[simp] theorem commits_map {f : α → β} :
    Commits (f <$> x) s b s' ↔ ∃ a, Commits x s a s' ∧ b = f a := by
  rw [map_eq_pure_bind, commits_bind]
  constructor
  · rintro ⟨a, s₁, hx, hp⟩
    obtain ⟨rfl, rfl⟩ := commits_pure.mp hp
    exact ⟨a, hx, rfl⟩
  · rintro ⟨a, hx, rfl⟩
    exact ⟨a, s', hx, commits_pure.mpr ⟨rfl, rfl⟩⟩

@[simp] theorem commits_throw : ¬ Commits (throw e : Transaction σ ε α) s a s' := by
  simp [Commits, throw, throwThe, MonadExceptOf.throw, StateT.lift, bind, Except.bind]

@[simp] theorem commits_ofExcept {x : Except ε α} :
    Commits (Transaction.ofExcept x) s a s' ↔ x = .ok a ∧ s' = s := by
  unfold Commits Transaction.ofExcept
  cases x with
  | error e => simp [Except.map]
  | ok a₀ => simp [Except.map, eq_comm]

@[simp] theorem commits_orFail {x : Option α} :
    Commits (Transaction.orFail e x) s a s' ↔ x = some a ∧ s' = s := by
  cases x with
  | none => simp [Transaction.orFail]
  | some a₀ => simp [Transaction.orFail, eq_comm]

@[simp] theorem commits_read {f : σ → α} :
    Commits (Transaction.read f : Transaction σ ε α) s a s' ↔ a = f s ∧ s' = s := by
  simp [Commits, Transaction.read, eq_comm]

/-! A statement whose answer is known, followed by the rest. -/

variable {g : α → Transaction σ ε β}

@[simp] theorem commits_ofExcept_bind {x : Except ε α} :
    Commits (Transaction.ofExcept x >>= g) s b s' ↔ ∃ a, x = .ok a ∧ Commits (g a) s b s' := by
  simp [and_assoc]

@[simp] theorem commits_orFail_bind {x : Option α} :
    Commits (Transaction.orFail e x >>= g) s b s' ↔ ∃ a, x = some a ∧ Commits (g a) s b s' := by
  simp [and_assoc]

end Statements

/-! ## Loops -/

/-- **Loop rule.** What holds before the loop and is kept by one turn, which may
    use the part of the list already done, holds after it. -/
theorem forM_invariant {f : α → Transaction σ ε PUnit} (I : List α → σ → Prop)
    (hstep : ∀ done a s s' u, I done s → Commits (f a) s u s' → I (done ++ [a]) s')
    {s s' : σ} {u : PUnit} (h : I [] s) (hl : Commits (l.forM f) s u s') : I l s' := by
  suffices ∀ (rest done : List α) (s : σ), I done s → Commits (rest.forM f) s u s' →
      I (done ++ rest) s' from this l [] s h hl
  intro rest
  induction rest with
  | nil =>
    intro done s h hl
    obtain ⟨-, rfl⟩ := commits_pure.mp hl
    simpa using h
  | cons a rest ih =>
    intro done s h hl
    obtain ⟨u₁, s₁, ha, hrest⟩ := commits_bind.mp hl
    rw [List.append_cons]
    exact ih (done ++ [a]) s₁ (hstep done a s s₁ u₁ h ha) hrest

/-- The same for a loop that collects answers. -/
theorem mapM_invariant (I : List α → List β → σ → Prop)
    (hstep : ∀ done answers a s b s', I done answers s → Commits (f a) s b s' →
      I (done ++ [a]) (answers ++ [b]) s') {s s' : σ} {bs : List β} (h : I [] [] s)
    (hl : Commits (l.mapM f) s bs s') : I l bs s' := by
  suffices ∀ (rest done : List α) (answers bs : List β) (s : σ), I done answers s →
      Commits (rest.mapM f) s bs s' → I (done ++ rest) (answers ++ bs) s' from
    this l [] [] bs s h hl
  intro rest
  induction rest with
  | nil =>
    intro done answers bs s h hl
    rw [List.mapM_nil] at hl
    obtain ⟨rfl, rfl⟩ := commits_pure.mp hl
    simpa using h
  | cons a rest ih =>
    intro done answers bs s h hl
    rw [List.mapM_cons] at hl
    obtain ⟨b, s₁, ha, hrest⟩ := commits_bind.mp hl
    obtain ⟨bs', s₂, hbs, hpure⟩ := commits_bind.mp hrest
    obtain ⟨rfl, rfl⟩ := commits_pure.mp hpure
    rw [List.append_cons, List.append_cons answers]
    exact ih (done ++ [a]) (answers ++ [b]) bs' s₁ (hstep done answers a s b s₁ h ha) hbs

/-! ## Atomic steps -/

/-- Runs `x` as one step: a failure rolls back. -/
def atomically (x : Transaction σ ε α) (s : σ) : σ × Except ε α :=
  match x s with
  | .ok (a, s') => (s', .ok a)
  | .error e => (s, .error e)

theorem atomically_of_commits {s s' : σ} {a : α} (h : Commits x s a s') :
    atomically x s = (s', .ok a) := by
  unfold atomically
  rw [h]

/-- A step commits or leaves the state alone. -/
theorem atomically_cases (x : Transaction σ ε α) (s : σ) :
    (∃ a s', Commits x s a s' ∧ atomically x s = (s', .ok a)) ∨
      ∃ e, atomically x s = (s, .error e) := by
  unfold atomically Commits
  cases h : x s with
  | error e => exact .inr ⟨e, rfl⟩
  | ok r => exact .inl ⟨r.1, r.2, rfl, rfl⟩

end Lib
