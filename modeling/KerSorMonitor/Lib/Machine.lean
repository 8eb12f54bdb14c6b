import Mathlib.Tactic.Common

/-!
# Machines

A machine has a state that each event changes. `run` is the state after some events, and `Along`
a condition on each event of a run.

Results: `run_invariant`; `Along.mono`, `Along.and`.
-/

namespace Machine

variable {σ ε : Type*}

/-- The state after the events. -/
def run (step : ε → σ → σ) (events : List ε) (s : σ) : σ := events.foldl (fun s e => step e s) s

/-- Every event of the run meets `ok` in the state in which it happens. -/
def Along (step : ε → σ → σ) (ok : σ → ε → Prop) : List ε → σ → Prop
  | [], _ => True
  | e :: events, s => ok s e ∧ Along step ok events (step e s)

variable {step : ε → σ → σ} {ok : σ → ε → Prop}

instance decidableAlong [hok : ∀ s e, Decidable (ok s e)] :
    ∀ (events : List ε) (s : σ), Decidable (Along step ok events s)
  | [], _ => isTrue trivial
  | e :: events, s =>
    match hok s e, decidableAlong events (step e s) with
    | isTrue h, isTrue h' => isTrue ⟨h, h'⟩
    | isFalse h, _ => isFalse fun hall => h hall.1
    | _, isFalse h => isFalse fun hall => h hall.2

theorem Along.mono {ok' : σ → ε → Prop} (h : ∀ s e, ok s e → ok' s e) {events : List ε} {s : σ}
    (hok : Along step ok events s) : Along step ok' events s := by
  induction events generalizing s with
  | nil => trivial
  | cons e events ih => exact ⟨h s e hok.1, ih hok.2⟩

theorem Along.and {ok' : σ → ε → Prop} {events : List ε} {s : σ} (hok : Along step ok events s)
    (hok' : Along step ok' events s) : Along step (fun s e => ok s e ∧ ok' s e) events s := by
  induction events generalizing s with
  | nil => trivial
  | cons e events ih => exact ⟨⟨hok.1, hok'.1⟩, ih hok.2 hok'.2⟩

/-- What every permitted event keeps holds after every permitted run. -/
theorem run_invariant {P : σ → Prop} (hstep : ∀ s e, ok s e → P s → P (step e s))
    {events : List ε} {s : σ} (hok : Along step ok events s) (h : P s) :
    P (run step events s) := by
  induction events generalizing s with
  | nil => exact h
  | cons e events ih => exact ih hok.2 (hstep s e hok.1 h)

end Machine
