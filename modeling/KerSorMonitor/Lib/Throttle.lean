import Mathlib.Algebra.Order.Group.Defs
import Mathlib.Data.List.Basic
import Mathlib.Order.Basic
import Mathlib.Tactic.Linarith

/-!
# Throttles

A throttle lets a value through if enough time has passed since the last one that it let through, and
drops it otherwise. Nothing that is dropped is let through later.

Results:
1. `spaced_run`: what is let through is at least the interval apart.
2. `current_run_concat_iff`: whether the last value is the one that was let through last.
-/

namespace Throttle

variable {τ V : Type} [AddCommGroup τ] [LinearOrder τ]

/-- When a value was let through last, and all that were, in order. -/
structure State (τ V : Type) where
  last : τ
  shown : List (τ × V)

/-- Nothing was let through since `start`. -/
def State.initial (start : τ) : State τ V := ⟨start, []⟩

/-- One value at its time. -/
def offer (interval : τ) (s : State τ V) (e : τ × V) : State τ V :=
  if e.1 - s.last < interval then s else ⟨e.1, s.shown ++ [e]⟩

def run (interval : τ) (es : List (τ × V)) (s : State τ V) : State τ V :=
  es.foldl (offer interval) s

/-- The value that was let through last. -/
def State.current (s : State τ V) : Option V := s.shown.getLast?.map Prod.snd

/-- What was let through is the interval apart, and nothing was later than the last. -/
structure Spaced (interval : τ) (s : State τ V) : Prop where
  apart : s.shown.Pairwise fun a b => a.1 + interval ≤ b.1
  latest : ∀ a ∈ s.shown, a.1 ≤ s.last

theorem spaced_initial (interval start : τ) :
    Spaced interval (State.initial start : State τ V) :=
  ⟨List.Pairwise.nil, fun _ h => absurd h List.not_mem_nil⟩

section

variable [IsOrderedAddMonoid τ]

theorem spaced_offer {interval : τ} (hpos : 0 ≤ interval) {s : State τ V} (h : Spaced interval s)
    (e : τ × V) : Spaced interval (offer interval s e) := by
  unfold offer
  split
  · exact h
  · next hdue =>
    have hdue' : s.last + interval ≤ e.1 := by
      rw [add_comm]
      exact le_sub_iff_add_le.mp (not_lt.mp hdue)
    refine ⟨?_, fun a ha => ?_⟩
    · rw [List.pairwise_append]
      refine ⟨h.apart, List.pairwise_singleton _ _, fun a ha b hb => ?_⟩
      rw [List.mem_singleton.mp hb]
      exact (add_le_add_left (h.latest a ha) interval).trans hdue'
    · rcases List.mem_append.mp ha with hold | hnew
      · calc a.1 ≤ s.last := h.latest a hold
          _ ≤ s.last + interval := le_add_of_nonneg_right hpos
          _ ≤ e.1 := hdue'
      · rw [List.mem_singleton.mp hnew]

/-- What a throttle lets through is at least the interval apart. -/
theorem spaced_run {interval : τ} (hpos : 0 ≤ interval) {s : State τ V} (h : Spaced interval s)
    (es : List (τ × V)) : Spaced interval (run interval es s) := by
  induction es generalizing s with
  | nil => exact h
  | cons e es ih => exact ih (spaced_offer hpos h e)

end

theorem run_append (interval : τ) (es es' : List (τ × V)) (s : State τ V) :
    run interval (es ++ es') s = run interval es' (run interval es s) := List.foldl_append

theorem run_concat (interval : τ) (es : List (τ × V)) (e : τ × V) (s : State τ V) :
    run interval (es ++ [e]) s = offer interval (run interval es s) e := by
  rw [run_append]
  rfl

/-- The last value is the current one iff it was due, or the current one is equal to it in what `f`
says of it. -/
theorem current_run_concat_iff {W : Type} (f : V → W) (interval : τ) (es : List (τ × V))
    (e : τ × V) (s : State τ V) :
    (run interval (es ++ [e]) s).current.map f = some (f e.2) ↔
      interval ≤ e.1 - (run interval es s).last ∨
        (run interval es s).current.map f = some (f e.2) := by
  rw [run_concat, offer]
  split
  · next hearly =>
    exact ⟨Or.inr, fun h => h.resolve_left (not_le.mpr hearly)⟩
  · next hdue =>
    refine ⟨fun _ => Or.inl (not_lt.mp hdue), fun _ => ?_⟩
    simp [State.current]

end Throttle
