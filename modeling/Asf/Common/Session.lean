import Asf.Common.Basic
import Asf.Lib.Transaction

/-!
# A transaction on the ledger's database

What a transaction depends on besides the tables: the readings of
`clock_timestamp()`, which never go back, the identifiers `Uuid::now_v7` draws,
and what the triggers, checks and foreign keys that are not modelled say about
a writing statement.
-/

namespace Asf

open Lib (Transaction Commits)

/-- The database as a transaction sees it. -/
structure Session (σ : Type) where
  db : σ
  now : Timestamptz
  /-- Microseconds that pass before each of the coming clock readings. -/
  pauses : ℕ → ℕ
  /-- The identifiers the coming draws return. -/
  ids : ℕ → Uuid
  /-- `some e` rejects the writing statement with that error context. -/
  verdict : String → Option String

/-- An `async fn` on `&mut Transaction<'_, Postgres>`. -/
abbrev Tx (σ α : Type) := Transaction (Session σ) Error α

variable {σ α : Type}

namespace Session

/-- The session after one more clock reading. -/
def tick (s : Session σ) : Session σ :=
  { s with now := s.now + s.pauses 0, pauses := fun n => s.pauses (n + 1) }

/-- The session after one more draw of an identifier. -/
def draw (s : Session σ) : Session σ := { s with ids := fun n => s.ids (n + 1) }

/-- The session with other tables. -/
def withDb (s : Session σ) (db : σ) : Session σ := { s with db }

section

variable (s : Session σ)

include s

@[simp] theorem tick_db : s.tick.db = s.db := rfl
@[simp] theorem draw_db : s.draw.db = s.db := rfl
@[simp] theorem withDb_db (db : σ) : (s.withDb db).db = db := rfl

theorem now_le_tick : s.now ≤ s.tick.now :=
  Int.le_add_of_nonneg_right (Int.natCast_nonneg _)

end

end Session

/-- Nothing was written while some time passed. -/
structure Reads (s s' : Session σ) : Prop where
  db : s'.db = s.db
  now : s.now ≤ s'.now

namespace Reads

variable {s s₁ s₂ : Session σ}

theorem refl (s : Session σ) : Reads s s := ⟨rfl, le_rfl⟩

theorem tick (s : Session σ) : Reads s s.tick := ⟨rfl, s.now_le_tick⟩

theorem trans (h : Reads s s₁) (h' : Reads s₁ s₂) : Reads s s₂ :=
  ⟨h'.db.trans h.db, h.now.trans h'.now⟩

end Reads

/-- `SELECT clock_timestamp()`. -/
def clockTimestamp : Tx σ Timestamptz := fun s => .ok (s.tick.now, s.tick)

/-- `Uuid::now_v7()`. -/
def nowV7 : Tx σ Uuid := fun s => .ok (s.ids 0, s.draw)

/-- A `SELECT`. -/
def select (f : σ → α) : Tx σ α := Transaction.read fun s => f s.db

/-- A writing statement; `f` is its effect or its own error. -/
def execute (context : String) (f : σ → Except String (α × σ)) : Tx σ α := fun s =>
  match s.verdict context with
  | some e => .error (persistenceError context e)
  | none =>
    match f s.db with
    | .error e => .error (persistenceError context e)
    | .ok (a, db) => .ok (a, s.withDb db)

/-- `if rejected { return Err(error) }`. -/
def reject (rejected : Prop) [Decidable rejected] (error : Error) : Tx σ Unit :=
  Transaction.ofExcept (failIf rejected error)

section Statements

variable {s s' : Session σ} {a : α} {context : String} {rejected : Prop} {error : Error}

@[simp] theorem commits_clockTimestamp {t : Timestamptz} :
    Commits clockTimestamp s t s' ↔ t = s.tick.now ∧ s' = s.tick := by
  simp [Commits, clockTimestamp, eq_comm]

@[simp] theorem commits_nowV7 {id : Uuid} : Commits nowV7 s id s' ↔ id = s.ids 0 ∧ s' = s.draw := by
  simp [Commits, nowV7, eq_comm]

@[simp] theorem commits_select {f : σ → α} :
    Commits (select f) s a s' ↔ a = f s.db ∧ s' = s := Lib.commits_read

@[simp] theorem commits_execute {f : σ → Except String (α × σ)} :
    Commits (execute context f) s a s' ↔
      s.verdict context = none ∧ ∃ db, f s.db = .ok (a, db) ∧ s' = s.withDb db := by
  unfold Commits execute
  cases s.verdict context with
  | some e => simp
  | none =>
    cases h : f s.db with
    | error e => simp
    | ok r =>
      obtain ⟨a₀, db⟩ := r
      simp only [Except.ok.injEq, Prod.mk.injEq, true_and]
      constructor
      · rintro ⟨rfl, rfl⟩
        exact ⟨db, ⟨rfl, rfl⟩, rfl⟩
      · rintro ⟨_, ⟨rfl, rfl⟩, rfl⟩
        exact ⟨rfl, rfl⟩

@[simp] theorem commits_reject [Decidable rejected] {u : Unit} :
    Commits (reject rejected error : Tx σ Unit) s u s' ↔ ¬ rejected ∧ s' = s := by
  simp [reject]

variable {β : Type} {b : β}

@[simp] theorem commits_clockTimestamp_bind {g : Timestamptz → Tx σ β} :
    Commits (clockTimestamp >>= g) s b s' ↔ Commits (g s.tick.now) s.tick b s' := by
  simp

@[simp] theorem commits_nowV7_bind {g : Uuid → Tx σ β} :
    Commits (nowV7 >>= g) s b s' ↔ Commits (g (s.ids 0)) s.draw b s' := by
  simp

@[simp] theorem commits_select_bind {f : σ → α} {g : α → Tx σ β} :
    Commits (select f >>= g) s b s' ↔ Commits (g (f s.db)) s b s' := by
  simp

@[simp] theorem commits_execute_bind {f : σ → Except String (α × σ)} {g : α → Tx σ β} :
    Commits (execute context f >>= g) s b s' ↔ s.verdict context = none ∧
      ∃ a db, f s.db = .ok (a, db) ∧ Commits (g a) (s.withDb db) b s' := by
  simp only [Lib.commits_bind, commits_execute]
  constructor
  · rintro ⟨a, _, ⟨hv, db, hf, rfl⟩, hg⟩
    exact ⟨hv, a, db, hf, hg⟩
  · rintro ⟨hv, a, db, hf, hg⟩
    exact ⟨a, _, ⟨hv, db, hf, rfl⟩, hg⟩

@[simp] theorem commits_reject_bind [Decidable rejected] {g : Unit → Tx σ β} :
    Commits (reject rejected error >>= g) s b s' ↔ ¬ rejected ∧ Commits (g ()) s b s' := by
  rw [reject, Lib.commits_ofExcept_bind]
  constructor
  · rintro ⟨_, h, hg⟩
    exact ⟨failIf_eq_ok_iff.mp h, hg⟩
  · rintro ⟨h, hg⟩
    exact ⟨(), failIf_eq_ok_iff.mpr h, hg⟩

end Statements

end Asf
