import Mathlib.Data.List.Nodup
import Mathlib.Data.Int.Notation

/-!
# Fenced leases

The abstract protocol behind a queue whose claims carry a fence token. A lease
is free or held until an instant; each claim takes the next token; only the
holder, while the lease has not expired, can renew it or settle it, and a
settled lease is free again.

Results:

* `Tracks.step`: one step of the protocol keeps the relation between a lease
  and the log of its events.
* `Tracks.latestClaim_of_renew`, `Tracks.latestClaim_of_settle`: whoever renews or
  settles is the latest claimant, under its own token and before the expiry.
* `Tracks.settled_nodup`: no token is settled twice.
-/

namespace Lib.FencedLease

variable {ω τ : Type*}

/-- A lease: the last token and, while it is held, the holder and the expiry. -/
structure Lease (ω τ : Type*) where
  fence : ℤ
  holder : Option (ω × τ)

/-- What can happen to a lease, with the owner and the token it happened under. -/
inductive Event (ω : Type*) where
  | claim (owner : ω) (fence : ℤ)
  | renew (owner : ω) (fence : ℤ)
  | settle (owner : ω) (fence : ℤ)

/-- One step at instant `now`; `none` is a step that leaves the lease alone. -/
inductive Step [LE τ] [LT τ] (now : τ) : Lease ω τ → Option (Event ω) → Lease ω τ → Prop
  | idle (L : Lease ω τ) : Step now L none L
  | claim (L : Lease ω τ) (owner : ω) (expiry : τ)
      (free : ∀ o x, L.holder = some (o, x) → x ≤ now) :
      Step now L (some (.claim owner (L.fence + 1))) ⟨L.fence + 1, some (owner, expiry)⟩
  | renew (L : Lease ω τ) (owner : ω) (x expiry : τ) (held : L.holder = some (owner, x))
      (live : now < x) :
      Step now L (some (.renew owner L.fence)) ⟨L.fence, some (owner, expiry)⟩
  | settle (L : Lease ω τ) (owner : ω) (x : τ) (held : L.holder = some (owner, x))
      (live : now < x) :
      Step now L (some (.settle owner L.fence)) ⟨L.fence, none⟩

/-- The owner and the token of a claim. -/
def Event.claim? : Event ω → Option (ω × ℤ)
  | .claim o f => some (o, f)
  | _ => none

/-- The token of a settlement. -/
def Event.settle? : Event ω → Option ℤ
  | .settle _ f => some f
  | _ => none

/-- The latest claim of a log. -/
def latestClaim (log : List (Event ω)) : Option (ω × ℤ) := (log.filterMap Event.claim?).getLast?

/-- The tokens a log has settled, oldest first. -/
def settled (log : List (Event ω)) : List ℤ := log.filterMap Event.settle?

/-- How a lease is related to the log of its events. -/
structure Tracks (L : Lease ω τ) (log : List (Event ω)) : Prop where
  held : ∀ o x, L.holder = some (o, x) → latestClaim log = some (o, L.fence)
  unsettled : L.holder.isSome → L.fence ∉ settled log
  settled_le : ∀ f ∈ settled log, f ≤ L.fence
  settled_nodup : (settled log).Nodup

theorem tracks_free (f : ℤ) : Tracks (⟨f, none⟩ : Lease ω τ) [] :=
  ⟨by simp, by simp, by simp [settled], by simp [settled]⟩

@[simp] theorem latestClaim_append_claim (log : List (Event ω)) (o : ω) (f : ℤ) :
    latestClaim (log ++ [.claim o f]) = some (o, f) := by
  simp [latestClaim, Event.claim?]

theorem latestClaim_append_other {log : List (Event ω)} {e : Event ω} (h : e.claim? = none) :
    latestClaim (log ++ [e]) = latestClaim log := by
  simp [latestClaim, h]

theorem settled_append (log : List (Event ω)) (e : Event ω) :
    settled (log ++ [e]) = settled log ++ e.settle?.toList := by
  cases h : e.settle? <;> simp [settled, h]

namespace Tracks

variable [LE τ] [LT τ] {L L' : Lease ω τ} {log : List (Event ω)} {now : τ} {e : Option (Event ω)}
  {o : ω} {f : ℤ}

/-- One step of the protocol extends the log by its event. -/
theorem step (h : Tracks L log) (hs : Step now L e L') : Tracks L' (log ++ e.toList) := by
  cases hs with
  | idle => simpa using h
  | claim owner expiry free =>
    refine ⟨?_, ?_, ?_, ?_⟩ <;> simp only [Option.toList_some, settled_append, Event.settle?,
      Option.toList_none, List.append_nil, latestClaim_append_claim]
    · rintro o x hx
      simp only [Option.some.injEq, Prod.mk.injEq] at hx
      rw [hx.1]
    · intro _ hmem
      have := h.settled_le _ hmem
      omega
    · intro f hf
      have := h.settled_le f hf
      omega
    · exact h.settled_nodup
  | renew owner x expiry held live =>
    refine ⟨?_, ?_, ?_, ?_⟩ <;> simp only [Option.toList_some, settled_append, Event.settle?,
      Option.toList_none, List.append_nil]
    · rintro o y hy
      simp only [Option.some.injEq, Prod.mk.injEq] at hy
      rw [latestClaim_append_other rfl, ← hy.1]
      exact h.held _ _ held
    · exact fun _ => h.unsettled (by simp [held])
    · exact h.settled_le
    · exact h.settled_nodup
  | settle owner x held live =>
    have hnew : L.fence ∉ settled log := h.unsettled (by simp [held])
    refine ⟨?_, ?_, ?_, ?_⟩ <;> simp only [Option.toList_some, settled_append, Event.settle?]
    · simp
    · simp
    · intro f hf
      rcases List.mem_append.mp hf with hf | hf
      · exact h.settled_le f hf
      · simp only [List.mem_singleton] at hf
        omega
    · rw [List.nodup_append]
      refine ⟨h.settled_nodup, by simp, ?_⟩
      intro a ha b hb hab
      simp only [List.mem_singleton] at hb
      exact hnew (hb ▸ hab ▸ ha)

/-- Whoever renews or settles holds the lease: the latest claimant, before the expiry. -/
theorem latestClaim_of_renew (h : Tracks L log) (hs : Step now L (some (.renew o f)) L') :
    latestClaim log = some (o, f) ∧ ∃ x, L.holder = some (o, x) ∧ now < x := by
  cases hs with
  | renew _ x _ held live => exact ⟨h.held _ _ held, x, held, live⟩

theorem latestClaim_of_settle (h : Tracks L log) (hs : Step now L (some (.settle o f)) L') :
    latestClaim log = some (o, f) ∧ ∃ x, L.holder = some (o, x) ∧ now < x := by
  cases hs with
  | settle _ x held live => exact ⟨h.held _ _ held, x, held, live⟩

end Tracks
end Lib.FencedLease
