import Mathlib.Data.List.Induction

/-!
# Machines, runs and histories

A machine answers inputs one at a time and changes its state. Whatever an
execution does not determine (a clock reading, which rows another transaction
has locked) is part of the input, so a run is a list of inputs.

Results:

* `run_invariant`: what every step preserves holds after every run.
* `history_invariant`: the same for a relation between the state and the
  inputs and answers so far.
* `log_invariant`: the same for the part of the answers that is about one
  thing.
* `observe_invariant`: the same for what the steps themselves show.
* `run_rel`: a reflexive and transitive relation that every step respects
  relates the two ends of a run.
-/

namespace Lib

/-- What one input does to the state, and the answer. -/
structure Machine (σ ι ο : Type*) where
  step : σ → ι → σ × ο

namespace Machine

variable {σ ι ο : Type*} (m : Machine σ ι ο) {s : σ}

/-- The state after one input. -/
def next (s : σ) (i : ι) : σ := (m.step s i).1

/-- The answer to one input. -/
def answer (s : σ) (i : ι) : ο := (m.step s i).2

/-- The state after a list of inputs. -/
def run (s : σ) : List ι → σ
  | [] => s
  | i :: l => run (m.next s i) l

/-- The inputs of a run with their answers, oldest first. -/
def history (s : σ) : List ι → List (ι × ο)
  | [] => []
  | i :: l => (i, m.answer s i) :: history (m.next s i) l

@[simp] theorem run_nil (s : σ) : m.run s [] = s := rfl

theorem run_append (s : σ) (l l' : List ι) : m.run s (l ++ l') = m.run (m.run s l) l' := by
  induction l generalizing s with
  | nil => rfl
  | cons i l ih => exact ih (m.next s i)

theorem history_append (s : σ) (l l' : List ι) :
    m.history s (l ++ l') = m.history s l ++ m.history (m.run s l) l' := by
  induction l generalizing s with
  | nil => rfl
  | cons i l ih => simp [history, ih, run]

theorem run_concat (s : σ) (l : List ι) (i : ι) :
    m.run s (l ++ [i]) = m.next (m.run s l) i := m.run_append s l [i]

theorem history_concat (s : σ) (l : List ι) (i : ι) :
    m.history s (l ++ [i]) = m.history s l ++ [(i, m.answer (m.run s l) i)] :=
  m.history_append s l [i]

/-- **Invariant rule.** -/
theorem run_invariant {P : σ → Prop} (hstep : ∀ s i, P s → P (m.next s i)) (h : P s)
    (l : List ι) : P (m.run s l) := by
  induction l generalizing s with
  | nil => exact h
  | cons i l ih => exact ih (hstep s i h)

/-- **Invariant rule** for inputs of one kind. -/
theorem run_invariant_of {P : σ → Prop} {Q : ι → Prop}
    (hstep : ∀ s i, Q i → P s → P (m.next s i)) (h : P s) {l : List ι}
    (hl : ∀ i ∈ l, Q i) : P (m.run s l) := by
  induction l generalizing s with
  | nil => exact h
  | cons i l ih =>
    rw [List.forall_mem_cons] at hl
    exact ih (hstep s i hl.1 h) hl.2

/-- **Invariant rule with a log.** -/
theorem history_invariant {P : σ → List (ι × ο) → Prop}
    (hstep : ∀ s h i, P s h → P (m.next s i) (h ++ [(i, m.answer s i)])) (h : P s [])
    (l : List ι) : P (m.run s l) (m.history s l) := by
  induction l using List.reverseRecOn with
  | nil => exact h
  | append_singleton l i ih =>
    rw [run_concat, history_concat]
    exact hstep _ _ _ ih

/-- The same for the log of what the answers say about one thing. -/
theorem log_invariant {ε : Type*} {P : σ → List ε → Prop} (event : ι → ο → Option ε)
    (hstep : ∀ s log i, P s log → P (m.next s i) (log ++ (event i (m.answer s i)).toList))
    (h : P s []) (l : List ι) :
    P (m.run s l) ((m.history s l).filterMap fun e => event e.1 e.2) := by
  refine m.history_invariant (P := fun s h => P s (h.filterMap fun e => event e.1 e.2)) ?_ h l
  intro s h i hP
  rw [List.filterMap_append]
  have := hstep s _ i hP
  cases he : event i (m.answer s i) with
  | none => simpa [he] using this
  | some e => simpa [he] using this

/-- What the steps of a run show, oldest first; `f` sees the state and the input. -/
def observe {ε : Type*} (f : σ → ι → Option ε) (s : σ) : List ι → List ε
  | [] => []
  | i :: l => (f s i).toList ++ observe f (m.next s i) l

theorem observe_concat {ε : Type*} (f : σ → ι → Option ε) (s : σ) (l : List ι) (i : ι) :
    m.observe f s (l ++ [i]) = m.observe f s l ++ (f (m.run s l) i).toList := by
  induction l generalizing s with
  | nil => simp [observe]
  | cons j l ih => simp [observe, ih, run]

/-- **Invariant rule with what was observed.** -/
theorem observe_invariant {ε : Type*} {P : σ → List ε → Prop} (f : σ → ι → Option ε)
    (hstep : ∀ s seen i, P s seen → P (m.next s i) (seen ++ (f s i).toList))
    (h : P s []) (l : List ι) : P (m.run s l) (m.observe f s l) := by
  induction l using List.reverseRecOn with
  | nil => exact h
  | append_singleton l i ih =>
    rw [run_concat, observe_concat]
    exact hstep _ _ _ ih

/-- A run changes the state only as its steps do. -/
theorem run_rel {P : σ → Prop} {R : σ → σ → Prop} (hrefl : ∀ s, R s s)
    (htrans : ∀ a b c, R a b → R b c → R a c) (hP : ∀ s i, P s → P (m.next s i))
    (hstep : ∀ s i, P s → R s (m.next s i)) (h : P s) (l : List ι) : R s (m.run s l) := by
  induction l generalizing s with
  | nil => exact hrefl s
  | cons i l ih => exact htrans _ _ _ (hstep s i h) (ih (hP s i h))

end Machine
end Lib
