import Mathlib.Algebra.Order.Ring.Int
import Mathlib.Data.List.Perm.Subperm

/-!
# Logs that are replayed in order

A log holds at most one entry for each position. A state waits for the entry of
one position; an entry that follows moves it to the next position, one that does
not leaves it waiting.

Results:

* `Replays.mono`: what was replayed from a log is replayed from a longer log.
* `Replays.unique`: two replays of a log that ended because nothing follows are
  the same, so it does not matter in which order the log was filled.
* `replays_contiguous`, `settled_contiguous`: the entries that follow one
  another, computed, are such a replay.
-/

namespace Lib

/-- States that take the entries of a log in the order of their positions. -/
structure Replay (σ ε : Type*) where
  /-- The position of the entry that a state waits for. -/
  expects : σ → ℤ
  /-- The state after an entry; `none` if the entry does not follow. -/
  apply : σ → ε → Option σ
  expects_apply : ∀ {s e s'}, apply s e = some s' → expects s' = expects s + 1

namespace Replay

variable {σ ε : Type*} (R : Replay σ ε)

/-- The entry that a state takes next, and the state after it. -/
def next (log : ℤ → Option ε) (s : σ) : Option (ε × σ) :=
  (log (R.expects s)).bind fun e => (R.apply s e).map fun s' => (e, s')

/-- No entry of the log follows. -/
def Settled (log : ℤ → Option ε) (s : σ) : Prop := R.next log s = none

/-- From `s` the log is replayed to `s'` by taking `es`. -/
inductive Replays (log : ℤ → Option ε) : σ → List ε → σ → Prop
  | nil (s : σ) : Replays log s [] s
  | cons {s s₁ s' : σ} {e : ε} {es : List ε} (h : R.next log s = some (e, s₁))
      (rest : Replays log s₁ es s') : Replays log s (e :: es) s'

variable {R} {log log' : ℤ → Option ε} {s s₁ s' : σ} {e : ε} {es es' : List ε}

theorem next_eq_some_iff :
    R.next log s = some (e, s') ↔ log (R.expects s) = some e ∧ R.apply s e = some s' := by
  unfold next
  cases log (R.expects s) with
  | none => simp
  | some e₀ =>
    simp only [Option.bind_some, Option.map_eq_some_iff, Prod.mk.injEq, Option.some.injEq]
    constructor
    · rintro ⟨_, h, rfl, rfl⟩
      exact ⟨rfl, h⟩
    · rintro ⟨rfl, h⟩
      exact ⟨s', h, rfl, rfl⟩

theorem next_mono (hlog : ∀ i e, log i = some e → log' i = some e)
    (h : R.next log s = some (e, s')) : R.next log' s = some (e, s') := by
  obtain ⟨he, hs⟩ := next_eq_some_iff.mp h
  exact next_eq_some_iff.mpr ⟨hlog _ _ he, hs⟩

namespace Replays

theorem append (h : R.Replays log s es s₁) (h' : R.Replays log s₁ es' s') :
    R.Replays log s (es ++ es') s' := by
  induction h with
  | nil => exact h'
  | cons hnext _ ih => exact .cons hnext (ih h')

theorem mono (hlog : ∀ i e, log i = some e → log' i = some e) (h : R.Replays log s es s') :
    R.Replays log' s es s' := by
  induction h with
  | nil => exact .nil _
  | cons hnext _ ih => exact .cons (next_mono hlog hnext) ih

/-- **Confluence.** A log determines how far it is replayed. -/
theorem unique {s₂ : σ} (h : R.Replays log s es s₁) (hs : R.Settled log s₁)
    (h' : R.Replays log s es' s₂) (hs' : R.Settled log s₂) : es = es' ∧ s₁ = s₂ := by
  induction h generalizing es' with
  | nil =>
    cases h' with
    | nil => exact ⟨rfl, rfl⟩
    | cons hnext _ => cases hs.symm.trans hnext
  | cons hnext _ ih =>
    cases h' with
    | nil => cases hs'.symm.trans hnext
    | cons hnext' rest' =>
      obtain ⟨rfl, rfl⟩ := Prod.mk.inj (Option.some.inj (hnext.symm.trans hnext'))
      obtain ⟨rfl, rfl⟩ := ih hs rest'
      exact ⟨rfl, rfl⟩

theorem expects_eq (h : R.Replays log s es s') : R.expects s' = R.expects s + es.length := by
  induction h with
  | nil => simp
  | cons hnext _ ih =>
    rw [ih, R.expects_apply (next_eq_some_iff.mp hnext).2, List.length_cons]
    push_cast
    omega

/-- Every entry taken stands in the log, at a position not before the one that
    was waited for. -/
theorem mem (h : R.Replays log s es s') (he : e ∈ es) :
    ∃ i, R.expects s ≤ i ∧ i < R.expects s' ∧ log i = some e := by
  induction h with
  | nil => simp at he
  | @cons s s₁ s' e₁ es hnext rest ih =>
    obtain ⟨hlog, happly⟩ := next_eq_some_iff.mp hnext
    have hstep := R.expects_apply happly
    have hrest := rest.expects_eq
    rcases List.mem_cons.mp he with rfl | he
    · exact ⟨_, le_rfl, by omega, hlog⟩
    · obtain ⟨i, hi, hi', hlog'⟩ := ih he
      exact ⟨i, by omega, hi', hlog'⟩

end Replays

/-! ## The replay of a finite log -/

section Finite

variable (R) (at_ : ε → ℤ) (entries : List ε)

/-- The log of a list of entries. -/
def logOf (i : ℤ) : Option ε := entries.find? fun e => decide (at_ e = i)

/-- The entries that follow one another from `s` on, at most `n`, and the state
    after them. -/
def contiguous (log : ℤ → Option ε) : ℕ → σ → List ε × σ
  | 0, s => ([], s)
  | n + 1, s =>
    match R.next log s with
    | none => ([], s)
    | some (e, s') => (e :: (contiguous log n s').1, (contiguous log n s').2)

variable {R at_ entries} {i : ℤ}

theorem replays_contiguous (n : ℕ) (s : σ) :
    R.Replays log s (R.contiguous log n s).1 (R.contiguous log n s).2 := by
  induction n generalizing s with
  | zero => exact .nil s
  | succ n ih =>
    unfold contiguous
    split
    · exact .nil s
    · rename_i hnext
      exact .cons hnext (ih _)

/-- The entries that a state has still before it. -/
def pending (R : Replay σ ε) (at_ : ε → ℤ) (entries : List ε) (s : σ) : List ε :=
  entries.filter fun e => decide (R.expects s ≤ at_ e)

theorem mem_of_logOf (h : logOf at_ entries i = some e) : e ∈ entries ∧ at_ e = i :=
  ⟨List.mem_of_find?_eq_some h, by simpa using List.find?_some h⟩

theorem length_pending_lt (h : R.next (logOf at_ entries) s = some (e, s')) :
    (R.pending at_ entries s').length < (R.pending at_ entries s).length := by
  obtain ⟨hlog, happly⟩ := next_eq_some_iff.mp h
  obtain ⟨hmem, hat⟩ := mem_of_logOf hlog
  have hexpects := R.expects_apply happly
  have hsub : R.pending at_ entries s' =
      (R.pending at_ entries s).filter fun e => decide (R.expects s' ≤ at_ e) := by
    simp only [pending, List.filter_filter]
    refine List.filter_congr fun e _ => ?_
    by_cases hle : R.expects s' ≤ at_ e
    · simp [hle, show R.expects s ≤ at_ e by omega]
    · simp [hle]
  rw [hsub]
  refine List.length_filter_lt_length_iff_exists.mpr ⟨e, ?_, ?_⟩
  · simp [pending, hmem, hat]
  · simp only [decide_eq_true_eq]
    omega

/-- As many turns as there are entries ahead are enough. -/
theorem settled_contiguous {n : ℕ} (h : (R.pending at_ entries s).length ≤ n) :
    R.Settled (logOf at_ entries) (R.contiguous (logOf at_ entries) n s).2 := by
  induction n generalizing s with
  | zero =>
    unfold contiguous Settled
    cases hnext : R.next (logOf at_ entries) s with
    | none => rfl
    | some r => exact absurd (length_pending_lt hnext) (by omega)
  | succ n ih =>
    unfold contiguous
    split
    · assumption
    · rename_i hnext
      exact ih (by have := length_pending_lt hnext; omega)

theorem length_pending_le (s : σ) : (R.pending at_ entries s).length ≤ entries.length :=
  List.length_filter_le ..

/-- A replay takes its entries from those that were ahead. -/
theorem Replays.length_le (h : R.Replays (logOf at_ entries) s es s') :
    es.length + (R.pending at_ entries s').length ≤ (R.pending at_ entries s).length := by
  induction h with
  | nil => simp
  | cons hnext _ ih =>
    have := length_pending_lt hnext
    simp only [List.length_cons]
    omega

/-- A list without two entries for one position is its log. -/
theorem logOf_eq_some_iff (hinj : ∀ a ∈ entries, ∀ b ∈ entries, at_ a = at_ b → a = b) :
    logOf at_ entries i = some e ↔ e ∈ entries ∧ at_ e = i := by
  refine ⟨mem_of_logOf, ?_⟩
  rintro ⟨hmem, rfl⟩
  have hsome : (logOf at_ entries (at_ e)).isSome := by
    rw [logOf, List.find?_isSome]
    exact ⟨e, hmem, by simp⟩
  obtain ⟨e', he'⟩ := Option.isSome_iff_exists.mp hsome
  obtain ⟨hmem', hat⟩ := mem_of_logOf he'
  rw [he', hinj e' hmem' e hmem hat]

theorem length_pending_le_of_subset {entries' : List ε} (hnodup : entries.Nodup)
    (hsub : entries ⊆ entries') (s : σ) :
    (R.pending at_ entries s).length ≤ (R.pending at_ entries' s).length := by
  have hsub' : R.pending at_ entries s ⊆ R.pending at_ entries' s := by
    intro e he
    obtain ⟨hmem, hle⟩ := List.mem_filter.mp he
    exact List.mem_filter.mpr ⟨hsub hmem, hle⟩
  exact (List.subperm_of_subset (hnodup.filter _) hsub').length_le

end Finite
end Replay
end Lib
