import Mathlib.Data.List.Induction

/-!
# Partial machines and their traces

A partial machine accepts or rejects each input. A run is a list of inputs that
were all accepted; its trace keeps, for each of them, the states before and
after and the output. A part of a run is a run, so what is proved of the end of
every run holds all along it.

Results:

* `run_concat_eq_ok_iff`: the last input of a run.
* `run_invariant`: what every accepted input preserves holds after every run,
  for a relation between the state and the trace so far.
* `run_respecting`: the same for the runs whose inputs all meet a condition on
  the state they find.
* `run_taken`: an invariant of the states holds before each input of a trace.
* `stepwise_concat`, `latest_concat`: a property of each entry and what came
  before it, and the last entry of some sort, when a trace grows.
-/

namespace Lib

/-- An accepted input with the states around it and its output. -/
@[ext]
structure Taken (σ ι ο : Type*) where
  before : σ
  input : ι
  after : σ
  output : ο
deriving DecidableEq

/-- What one input does: a new state and an output, or a rejection. -/
structure PartialMachine (σ ι ο ε : Type*) where
  step : σ → ι → Except ε (σ × ο)

namespace PartialMachine

variable {σ ι ο ε : Type*} (m : PartialMachine σ ι ο ε) {trace : List (Taken σ ι ο)} {s t : σ}
  {i : ι}

/-- The state after a list of accepted inputs, and the trace. -/
def run (s : σ) : List ι → Except ε (σ × List (Taken σ ι ο))
  | [] => .ok (s, [])
  | i :: l =>
    match m.step s i with
    | .error e => .error e
    | .ok (s', o) =>
      match run s' l with
      | .error e => .error e
      | .ok (t, trace) => .ok (t, ⟨s, i, s', o⟩ :: trace)

theorem run_cons_eq_ok_iff {l : List ι} :
    m.run s (i :: l) = .ok (t, trace) ↔ ∃ s' o rest, m.step s i = .ok (s', o)
      ∧ m.run s' l = .ok (t, rest) ∧ trace = ⟨s, i, s', o⟩ :: rest := by
  constructor
  · intro h
    simp only [run] at h
    rcases hstep : m.step s i with e | ⟨s', o⟩ <;> simp only [hstep, reduceCtorEq] at h
    rcases hrest : m.run s' l with e | ⟨t', rest⟩ <;> simp only [hrest, reduceCtorEq] at h
    obtain ⟨rfl, rfl⟩ := Prod.mk.inj (Except.ok.inj h)
    exact ⟨s', o, rest, rfl, hrest, rfl⟩
  · rintro ⟨s', o, rest, hstep, hrest, rfl⟩
    simp only [run, hstep, hrest]

theorem run_concat_eq_ok_iff {l : List ι} :
    m.run s (l ++ [i]) = .ok (t, trace) ↔ ∃ s' o front, m.run s l = .ok (s', front)
      ∧ m.step s' i = .ok (t, o) ∧ trace = front ++ [⟨s', i, t, o⟩] := by
  induction l generalizing s trace with
  | nil =>
    rw [List.nil_append, run_cons_eq_ok_iff]
    constructor
    · rintro ⟨s', o, rest, hstep, hrest, rfl⟩
      obtain ⟨rfl, rfl⟩ := Prod.mk.inj (Except.ok.inj hrest)
      exact ⟨s, o, [], rfl, hstep, rfl⟩
    · rintro ⟨s', o, front, hrun, hstep, rfl⟩
      obtain ⟨rfl, rfl⟩ := Prod.mk.inj (Except.ok.inj hrun)
      exact ⟨t, o, [], hstep, rfl, rfl⟩
  | cons j l ih =>
    rw [List.cons_append, run_cons_eq_ok_iff]
    constructor
    · rintro ⟨s₁, o₁, rest, hfirst, hrest, rfl⟩
      obtain ⟨s', o, front, hrun, hstep, rfl⟩ := ih.mp hrest
      exact ⟨s', o, _, m.run_cons_eq_ok_iff.mpr ⟨s₁, o₁, front, hfirst, hrun, rfl⟩, hstep, rfl⟩
    · rintro ⟨s', o, front, hrun, hstep, rfl⟩
      obtain ⟨s₁, o₁, rest, hfirst, hrest, rfl⟩ := m.run_cons_eq_ok_iff.mp hrun
      exact ⟨s₁, o₁, _, hfirst, ih.mpr ⟨s', o, rest, hrest, hstep, rfl⟩, rfl⟩

/-- **Invariant rule with a trace.** -/
theorem run_invariant {P : σ → List (Taken σ ι ο) → Prop}
    (hstep : ∀ s trace i t o, P s trace → m.step s i = .ok (t, o) → P t (trace ++ [⟨s, i, t, o⟩]))
    (h : P s []) {l : List ι} (hrun : m.run s l = .ok (t, trace)) : P t trace := by
  induction l using List.reverseRecOn generalizing t trace with
  | nil =>
    obtain ⟨rfl, rfl⟩ := Prod.mk.inj (Except.ok.inj hrun)
    exact h
  | append_singleton l i ih =>
    obtain ⟨s', o, front, hfront, hlast, rfl⟩ := m.run_concat_eq_ok_iff.mp hrun
    exact hstep s' front i t o (ih hfront) hlast

/-- **Invariant rule for a part of the runs**: those whose inputs meet `C`. -/
theorem run_respecting {C : σ → ι → Prop} {P : σ → Prop}
    (hstep : ∀ s i t o, P s → C s i → m.step s i = .ok (t, o) → P t) (h : P s) {l : List ι}
    (hrun : m.run s l = .ok (t, trace)) (hC : ∀ e ∈ trace, C e.before e.input) : P t := by
  refine m.run_invariant (P := fun t trace => (∀ e ∈ trace, C e.before e.input) → P t)
    ?_ (fun _ => h) hrun hC
  intro s trace i t o ih hi hC
  refine hstep s i t o (ih fun e he => hC e (List.mem_append_left _ he)) ?_ hi
  exact hC ⟨s, i, t, o⟩ (List.mem_append_right _ (by simp))

/-- **Trace rule**: what the states keep is known before each accepted input. -/
theorem run_taken {P : σ → Prop} (hstep : ∀ s i t o, P s → m.step s i = .ok (t, o) → P t)
    (h : P s) {l : List ι} (hrun : m.run s l = .ok (t, trace)) :
    P t ∧ ∀ e ∈ trace, P e.before ∧ m.step e.before e.input = .ok (e.after, e.output) := by
  refine m.run_invariant (P := fun t trace => P t
    ∧ ∀ e ∈ trace, P e.before ∧ m.step e.before e.input = .ok (e.after, e.output))
    ?_ ⟨h, by simp⟩ hrun
  rintro s trace i t o ⟨hs, htrace⟩ hi
  refine ⟨hstep s i t o hs hi, ?_⟩
  intro e he
  rcases List.mem_append.mp he with he | he
  · exact htrace e he
  · obtain rfl := List.mem_singleton.mp he
    exact ⟨hs, hi⟩

end PartialMachine

/-! ## What entries of a trace say -/

section Entries

variable {α β : Type*} {Q : List α → α → Prop} (f : α → Option β)

/-- Every entry of the list has `Q` to the entries before it. -/
def Stepwise (Q : List α → α → Prop) (l : List α) : Prop :=
  ∀ front a rest, l = front ++ a :: rest → Q front a

@[simp] theorem stepwise_nil (Q : List α → α → Prop) : Stepwise Q [] := by
  intro front a rest h
  simp at h

theorem stepwise_concat {l : List α} {a : α} : Stepwise Q (l ++ [a]) ↔ Stepwise Q l ∧ Q l a := by
  constructor
  · intro h
    refine ⟨?_, h l a [] rfl⟩
    rintro front b rest rfl
    exact h front b (rest ++ [a]) (by simp)
  · rintro ⟨hl, ha⟩ front b rest heq
    induction rest using List.reverseRecOn with
    | nil =>
      obtain ⟨rfl, hb⟩ := List.append_inj' heq rfl
      obtain rfl : a = b := by simpa using hb
      exact ha
    | append_singleton rest c _ =>
      rw [← List.cons_append, ← List.append_assoc] at heq
      obtain ⟨rfl, -⟩ := List.append_inj' heq rfl
      exact hl front b rest rfl

theorem stepwise_iff_get {l : List α} :
    Stepwise Q l ↔ ∀ i : Fin l.length, Q (l.take i) (l.get i) := by
  constructor
  · intro h i
    exact h _ _ (l.drop (i + 1)) (by simp)
  · rintro h front a rest rfl
    simpa using h ⟨front.length, by simp⟩

instance (Q : List α → α → Prop) [∀ front a, Decidable (Q front a)] (l : List α) :
    Decidable (Stepwise Q l) :=
  decidable_of_iff _ stepwise_iff_get.symm

/-- The value of the last entry that has one. -/
def latest (l : List α) : Option β := (l.filterMap f).getLast?

theorem latest_concat (l : List α) (a : α) : latest f (l ++ [a]) = (f a).or (latest f l) := by
  cases h : f a <;> simp [latest, h]

end Entries

end Lib
