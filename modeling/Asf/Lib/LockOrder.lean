import Mathlib.Data.Fintype.EquivFin
import Mathlib.Data.Prod.Lex
import Mathlib.Logic.Relation
import Mathlib.Order.WellFounded

/-!
# Ordered acquisition of locks

Clients request exclusive locks one after another, keep what they are granted
and give everything back when they finish. A request for a lock the client
already has is granted at once, so what a client *takes* is its requests
without the repeated ones.

Results:

* `waits_climbs`: if every client takes its locks in increasing order, a chain
  of waiting clients leads to ever higher locks.
* `waits_acyclic`: then no schedule leads to a cycle of waiting clients.
* `exists_not_waiting`: and some client that is not finished does not wait.
-/

namespace Lib

variable {κ : Type*} {a b : κ}

/-! ## What a list of requests takes -/

section Requests

variable [DecidableEq κ]

/-- The requests that are not for a lock already taken. -/
def taken (requests : List κ) : List κ :=
  requests.foldl (fun held a => if a ∈ held then held else held ++ [a]) []

@[simp] theorem taken_nil : taken ([] : List κ) = [] := rfl

theorem taken_concat (l : List κ) (a : κ) :
    taken (l ++ [a]) = if a ∈ taken l then taken l else taken l ++ [a] := by
  rw [taken, List.foldl_append]
  rfl

@[simp] theorem mem_taken {l : List κ} {a : κ} : a ∈ taken l ↔ a ∈ l := by
  induction l using List.reverseRecOn generalizing a with
  | nil => simp
  | append_singleton l b ih =>
    rw [taken_concat]
    split_ifs with hb
    · rw [ih] at hb
      simp only [ih, List.mem_append, List.mem_singleton]
      constructor
      · exact .inl
      · rintro (h | rfl)
        · exact h
        · exact hb
    · simp [ih]

/-- More requests take more locks, after those already taken. -/
theorem taken_append_extends (l m : List κ) : taken l <+: taken (l ++ m) := by
  induction m using List.reverseRecOn with
  | nil => rw [List.append_nil]
  | append_singleton m a ih =>
    rw [← List.append_assoc, taken_concat]
    split_ifs
    · exact ih
    · exact ih.trans (List.prefix_append _ _)

/-- Repeated requests take nothing. -/
theorem taken_append_of_subset {l m : List κ} (h : m ⊆ l) : taken (l ++ m) = taken l := by
  induction m using List.reverseRecOn with
  | nil => rw [List.append_nil]
  | append_singleton m a ih =>
    obtain ⟨hm, ha⟩ := List.append_subset.mp h
    rw [← List.append_assoc, taken_concat, ih hm, if_pos (mem_taken.mpr (ha (by simp)))]

/-- Requests without repetition are all taken. -/
theorem taken_of_nodup {l : List κ} (h : l.Nodup) : taken l = l := by
  induction l using List.reverseRecOn with
  | nil => rfl
  | append_singleton l a ih =>
    obtain ⟨hl, -, hdisjoint⟩ := List.nodup_append.mp h
    have ha : a ∉ l := fun ha => hdisjoint a ha a (by simp) rfl
    rw [taken_concat, ih hl, if_neg ha]

theorem taken_map {α : Type*} [DecidableEq α] {f : α → κ} {l : List α}
    (hf : Set.InjOn f {a | a ∈ l}) : taken (l.map f) = (taken l).map f := by
  induction l using List.reverseRecOn with
  | nil => rfl
  | append_singleton l a ih =>
    have hl : Set.InjOn f {a | a ∈ l} := hf.mono fun b hb => List.mem_append_left _ hb
    have hmem : f a ∈ (taken l).map f ↔ a ∈ taken l := by
      constructor
      · intro h
        obtain ⟨b, hb, heq⟩ := List.mem_map.mp h
        have hba : b = a := hf (List.mem_append_left _ (mem_taken.mp hb)) (by simp) heq
        exact hba ▸ hb
      · exact List.mem_map_of_mem
    rw [List.map_append, List.map_singleton, taken_concat, taken_concat, ih hl]
    simp only [hmem]
    split_ifs with h
    · rfl
    · rw [List.map_append, List.map_singleton]

/-- The requests take locks at strictly increasing levels. -/
def Ascending {β : Type*} [LT β] (level : κ → β) (requests : List κ) : Prop :=
  (taken requests).Pairwise fun a b => level a < level b

/-- Increasing requests, and after them only locks already taken. -/
theorem Ascending.of_pairwise {β : Type*} [Preorder β] {level : κ → β} {l m : List κ}
    (hl : l.Pairwise fun a b => level a < level b) (hm : m ⊆ l) : Ascending level (l ++ m) := by
  have hnodup : l.Nodup := hl.imp fun {a b} h (heq : a = b) => lt_irrefl _ (heq ▸ h)
  rw [Ascending, taken_append_of_subset hm, taken_of_nodup hnodup]
  exact hl

/-- A lock requested later and not yet taken is above everything taken before. -/
theorem Ascending.level_lt {β : Type*} [LT β] {level : κ → β} {l m : List κ}
    (h : Ascending level (l ++ a :: m)) (ha : a ∉ l) (hb : b ∈ l) : level b < level a := by
  rw [Ascending, List.append_cons] at h
  have hpair := h.sublist (taken_append_extends (l ++ [a]) m).sublist
  rw [taken_concat, if_neg (by rwa [mem_taken]), List.pairwise_append] at hpair
  exact hpair.2.2 b (mem_taken.mpr hb) a (List.mem_singleton_self a)

end Requests

/-! ## Clients and schedules -/

/-- What a client was granted and what it is still going to request. -/
structure Client (κ : Type*) where
  (granted pending : List κ)

namespace Client

/-- A client that has not started. -/
def start (requests : List κ) : Client κ := ⟨[], requests⟩

/-- A client that has committed or rolled back. -/
def finished : Client κ := ⟨[], []⟩

/-- The client has started or is going to. -/
def Unfinished (c : Client κ) : Prop := c.granted ≠ [] ∨ c.pending ≠ []

/-- The client's next request is for `a`, which it does not have. -/
def Wants (c : Client κ) (a : κ) : Prop := ∃ rest, c.pending = a :: rest ∧ a ∉ c.granted

theorem Wants.unique {c : Client κ} (ha : c.Wants a) (hb : c.Wants b) : a = b := by
  obtain ⟨_, hpending, -⟩ := ha
  obtain ⟨_, hpending', -⟩ := hb
  exact (List.cons.inj (hpending.symm.trans hpending')).1

end Client

variable {ι : Type*} [DecidableEq ι]

/-- One move of a schedule. -/
inductive LockStep (s : ι → Client κ) : (ι → Client κ) → Prop
  | grant (i : ι) (a : κ) (rest : List κ) (hnext : (s i).pending = a :: rest)
      (hfree : ∀ j, j ≠ i → a ∉ (s j).granted) :
      LockStep s (Function.update s i ⟨(s i).granted ++ [a], rest⟩)
  | finish (i : ι) : LockStep s (Function.update s i .finished)

/-- The states that schedules of these requests lead to. -/
def LockReachable (requests : ι → List κ) (s : ι → Client κ) : Prop :=
  Relation.ReflTransGen LockStep (fun i => .start (requests i)) s

/-- `i` waits for `j`: what it wants is held by `j`, or wanted by `j`, which came
    to the queue first. -/
def Waits (arrival : ι → ℕ) (s : ι → Client κ) (i j : ι) : Prop :=
  ∃ a, (s i).Wants a ∧ (a ∈ (s j).granted ∨ (s j).Wants a ∧ arrival j < arrival i)

/-- **Run lemma.** A client is somewhere in its requests, or finished. -/
theorem LockReachable.split {requests : ι → List κ} {s : ι → Client κ}
    (h : LockReachable requests s) (i : ι) :
    (s i).granted ++ (s i).pending = requests i ∨ s i = .finished := by
  induction h with
  | refl => exact .inl rfl
  | tail _ hstep ih =>
    cases hstep with
    | grant j a rest hnext _ =>
      by_cases hij : i = j
      · subst hij
        rw [Function.update_self]
        refine .inl ?_
        rcases ih with ih | ih
        · rw [← ih, hnext]
          simp
        · rw [ih] at hnext
          exact absurd hnext (by simp [Client.finished])
      · rwa [Function.update_of_ne hij]
    | finish j =>
      by_cases hij : i = j
      · subst hij
        exact .inr (Function.update_self ..)
      · rwa [Function.update_of_ne hij]

section Ordered

variable [DecidableEq κ] {β : Type*} [LinearOrder β] {level : κ → β} {requests : ι → List κ}
  {s : ι → Client κ}

section

variable (h : LockReachable requests s) (hasc : ∀ i, Ascending level (requests i)) {i : ι}

include h hasc

/-- What a client wants is above all it holds. -/
theorem LockReachable.level_lt (ha : (s i).Wants a) (hb : b ∈ (s i).granted) :
    level b < level a := by
  obtain ⟨rest, hpending, hnew⟩ := ha
  rcases h.split i with hsplit | hfinished
  · have hi := hasc i
    rw [← hsplit, hpending] at hi
    exact hi.level_lt hnew hb
  · rw [hfinished] at hb
    exact absurd hb (by simp [Client.finished])

/-- A chain of waiting clients climbs: from `i`, which wants `a`, it leads to a
    client that wants nothing, or a lock above `a`, or `a` itself from an earlier
    place in the queue. -/
theorem waits_climbs {arrival : ι → ℕ} {i j : ι}
    (hw : Relation.TransGen (Waits arrival s) i j) (ha : (s i).Wants a)
    (hb : (s j).Wants b) : level a < level b ∨ a = b ∧ arrival j < arrival i := by
  induction hw generalizing b with
  | single hij =>
    obtain ⟨c, hc, hheld | ⟨hqueued, harrival⟩⟩ := hij
    · obtain rfl := ha.unique hc
      exact .inl (h.level_lt hasc hb hheld)
    · obtain rfl := ha.unique hc
      exact .inr ⟨hqueued.unique hb, harrival⟩
  | tail _ hjk ih =>
    obtain ⟨c, hc, hheld | ⟨hqueued, harrival⟩⟩ := hjk
    · have hcb := h.level_lt hasc hb hheld
      rcases ih hc with hac | ⟨rfl, -⟩
      · exact .inl (hac.trans hcb)
      · exact .inl hcb
    · obtain rfl := hqueued.unique hb
      rcases ih hc with hac | ⟨rfl, harrival'⟩
      · exact .inl hac
      · exact .inr ⟨rfl, harrival.trans harrival'⟩

/-- **No deadlock.** -/
theorem waits_acyclic (arrival : ι → ℕ) (i : ι) : ¬ Relation.TransGen (Waits arrival s) i i := by
  intro hcycle
  have hwaits : ∃ a, (s i).Wants a := by
    obtain ⟨j, ⟨a, ha, -⟩, -⟩ := Relation.TransGen.head'_iff.mp hcycle
    exact ⟨a, ha⟩
  obtain ⟨a, ha⟩ := hwaits
  rcases waits_climbs h hasc hcycle ha ha with hlt | ⟨-, hlt⟩
  · exact lt_irrefl _ hlt
  · exact lt_irrefl _ hlt

/-- **Progress.** -/
theorem exists_not_waiting [Finite ι] (arrival : ι → ℕ) (hi : (s i).Unfinished) :
    ∃ j, (s j).Unfinished ∧ ∀ k, ¬ Waits arrival s j k := by
  -- a waiting client waits for an unfinished one, and the chains are finite
  have hwf : WellFounded fun k j => Relation.TransGen (Waits arrival s) j k := by
    have : Std.Irrefl fun k j => Relation.TransGen (Waits arrival s) j k :=
      ⟨waits_acyclic h hasc arrival⟩
    have : IsTrans ι fun k j => Relation.TransGen (Waits arrival s) j k :=
      ⟨fun _ _ _ hab hbc => hbc.trans hab⟩
    exact Finite.wellFounded_of_trans_of_irrefl _
  obtain ⟨j, hj, hmin⟩ := hwf.has_min {j | (s j).Unfinished} ⟨i, hi⟩
  refine ⟨j, hj, fun k hwaits => hmin k ?_ (.single hwaits)⟩
  obtain ⟨a, -, hheld | ⟨⟨rest, hpending, -⟩, -⟩⟩ := hwaits
  · exact .inl (List.ne_nil_of_mem hheld)
  · exact .inr (by rw [hpending]; exact List.cons_ne_nil _ _)

end

end Ordered

end Lib
