import Mathlib.Tactic.Common

/-!
# Loops

A loop performs iterations until one of them ends it. `loop` runs it with fuel, and
`Reaches` are the states between iterations.

Results: `inv_of_reaches`, `loop_ends`, the invariant and the termination rule; `loop_related`, the
rule for two loops that go in step.
-/

namespace Loops

/-- What an iteration does: the loop goes on, or ends. -/
inductive Step (σ ρ : Type)
  | next (s : σ)
  | done (r : ρ)

variable {σ ρ : Type}

/-- The loop from iteration `i` on, if `fuel` iterations are enough. -/
def loop (body : Nat → σ → Step σ ρ) : Nat → Nat → σ → Option ρ
  | 0, _, _ => none
  | fuel + 1, i, s =>
    match body i s with
    | .next s' => loop body fuel (i + 1) s'
    | .done r => some r

/-- The state before iteration `i`. -/
inductive Reaches (body : Nat → σ → Step σ ρ) (s₀ : σ) : Nat → σ → Prop
  | start : Reaches body s₀ 0 s₀
  | next {i : Nat} {s s' : σ} : Reaches body s₀ i s → body i s = .next s' → Reaches body s₀ (i + 1) s'

variable {body : Nat → σ → Step σ ρ}

/-- What every iteration keeps holds before each iteration. -/
theorem inv_of_reaches (inv : Nat → σ → Prop) {s₀ : σ} (h₀ : inv 0 s₀)
    (hstep : ∀ i s s', inv i s → body i s = .next s' → inv (i + 1) s') {i : Nat} {s : σ}
    (h : Reaches body s₀ i s) : inv i s := by
  induction h with
  | start => exact h₀
  | next _ hbody ih => exact hstep _ _ _ ih hbody

/-- A loop whose iterations lower a measure ends. -/
theorem loop_ends (inv : Nat → σ → Prop) (measure : σ → Nat)
    (hstep : ∀ i s s', inv i s → body i s = .next s' → inv (i + 1) s' ∧ measure s' < measure s)
    {fuel i : Nat} {s : σ} (hinv : inv i s) (hfuel : measure s < fuel) :
    ∃ r, loop body fuel i s = some r := by
  induction fuel generalizing i s with
  | zero => exact absurd hfuel (Nat.not_lt_zero _)
  | succ fuel ih =>
    rw [loop]
    cases hbody : body i s with
    | done r => exact ⟨r, rfl⟩
    | next s' =>
      obtain ⟨hinv', hlt⟩ := hstep i s s' hinv hbody
      exact ih hinv' (by omega)

/-- The result of a loop is that of an iteration from a state that it reaches. -/
theorem done_of_loop {s₀ : σ} {fuel i : Nat} {s : σ} {r : ρ} (h : loop body fuel i s = some r)
    (hs : Reaches body s₀ i s) : ∃ j s', Reaches body s₀ j s' ∧ body j s' = .done r := by
  induction fuel generalizing i s with
  | zero => cases h
  | succ fuel ih =>
    rw [loop] at h
    cases hbody : body i s with
    | done r' =>
      rw [hbody] at h
      cases h
      exact ⟨i, s, hs, hbody⟩
    | next s' =>
      rw [hbody] at h
      exact ih h (hs.next hbody)

/-! ## Two loops in step -/

/-- Both iterations go on, or both end. -/
inductive Step.Related {τ ρ' : Type} (R : σ → τ → Prop) (Q : ρ → ρ' → Prop) :
    Step σ ρ → Step τ ρ' → Prop
  | next {s : σ} {t : τ} (h : R s t) : Related R Q (.next s) (.next t)
  | done {r : ρ} {r' : ρ'} (h : Q r r') : Related R Q (.done r) (.done r')

theorem Step.Related.imp {τ ρ' : Type} {R R' : σ → τ → Prop} {Q : ρ → ρ' → Prop} {x : Step σ ρ}
    {y : Step τ ρ'} (h : Step.Related R Q x y)
    (himp : ∀ s t, x = .next s → y = .next t → R s t → R' s t) : Step.Related R' Q x y := by
  cases h with
  | next h => exact .next (himp _ _ rfl rfl h)
  | done h => exact .done h

/-- Loops whose iterations are related end together. -/
theorem loop_related {τ ρ' : Type} {body' : Nat → τ → Step τ ρ'} {R : Nat → σ → τ → Prop}
    {Q : ρ → ρ' → Prop}
    (hstep : ∀ i s t, R i s t → Step.Related (R (i + 1)) Q (body i s) (body' i t))
    {fuel i : Nat} {s : σ} {t : τ} {r : ρ} (h : R i s t) (hloop : loop body fuel i s = some r) :
    ∃ r', loop body' fuel i t = some r' ∧ Q r r' := by
  induction fuel generalizing i s t with
  | zero => cases hloop
  | succ fuel ih =>
    rw [loop] at hloop ⊢
    have hrelated := hstep i s t h
    cases hbody : body i s with
    | next s' =>
      rw [hbody] at hloop hrelated
      cases hbody' : body' i t with
      | next t' =>
        rw [hbody'] at hrelated
        cases hrelated with
        | next hnext => exact ih hnext hloop
      | done r' =>
        rw [hbody'] at hrelated
        cases hrelated
    | done r₀ =>
      rw [hbody] at hloop hrelated
      cases hloop
      cases hbody' : body' i t with
      | next t' =>
        rw [hbody'] at hrelated
        cases hrelated
      | done r' =>
        rw [hbody'] at hrelated
        cases hrelated with
        | done hdone => exact ⟨r', rfl, hdone⟩

end Loops
