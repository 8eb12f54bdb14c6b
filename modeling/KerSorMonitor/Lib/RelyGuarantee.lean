import KerSorMonitor.Lib.Threads

/-!
# Rely and guarantee

A contract fixes an invariant of the shared state, what each thread may rely on between two
of its actions, what a thread that is not in flight leaves alone (`clean`), what runs are
required to meet at each action (`assume`), and what is to hold at each action (`check`).
`Safe` is the weakest precondition of a program under such a contract: before each of its
actions the other threads may have changed the state.

Results:
1. `Safe.bind`, `Safe.attempt`, `Safe.of_all`, `Safe.embed`, ...: rules for programs.
2. `Contract.Sound.holds_run`: when every program is safe, the invariant holds after every run.
3. `Contract.Holds.clean_of_quiescent`: threads that are not in flight are clean.
4. `Contract.Holds.check`: the check holds whenever a thread is about to act.
-/

namespace Threads

open Keyed

variable {Act : Type → Type 1} {ε σ Env Op α β : Type}

/-- What the threads of a system promise each other. -/
structure Contract (S : System Act ε σ Env Op) where
  inv : σ → Prop
  rely : ThreadId → σ → σ → Prop
  /-- What an action of a thread does. -/
  guar : ThreadId → σ → σ → Prop
  clean : ThreadId → σ → Prop
  assume : ThreadId → {β : Type} → Act β → Env → σ → Prop
  check : ThreadId → {β : Type} → Act β → σ → Prop
  rely_refl : ∀ t s, rely t s s
  rely_trans : ∀ {t s s' s''}, rely t s s' → rely t s' s'' → rely t s s''
  clean_rely : ∀ {t s s'}, clean t s → rely t s s' → clean t s'
  inv_guar : ∀ {t s s'}, inv s → guar t s s' → inv s'
  rely_guar : ∀ {t t' s s'}, inv s → guar t s s' → t' ≠ t → rely t' s s'

variable {S : System Act ε σ Env Op} (C : Contract S)

/-- Started in `s`, the program performs only actions that keep the contract, and ends in a
state that satisfies `Q`. -/
def Safe (t : ThreadId) : Prog Act ε α → (Except ε α → σ → Prop) → σ → Prop
  | .pure a, Q, s => Q (.ok a) s
  | .throw e, Q, s => Q (.error e) s
  | .act a k, Q, s => ∀ s₁, C.rely t s s₁ → C.inv s₁ → C.check t a s₁ ∧
      ∀ env r s₂, C.assume t a env s₁ → S.exec t a env s₁ = (r, s₂) →
        C.guar t s₁ s₂ ∧ Safe t (k r) Q s₂

variable {C} {t : ThreadId}

/-! ## Rules for programs -/

namespace Safe

variable {Q Q' : Except ε α → σ → Prop} {s : σ}

theorem mono {p : Prog Act ε α} (h : Safe C t p Q s) (hQ : ∀ r s, Q r s → Q' r s) :
    Safe C t p Q' s := by
  induction p generalizing s with
  | pure a => exact hQ _ _ h
  | throw e => exact hQ _ _ h
  | act a k ih =>
    intro s₁ hrely hinv
    obtain ⟨hcheck, hstep⟩ := h s₁ hrely hinv
    refine ⟨hcheck, fun env r s₂ hassume hexec => ?_⟩
    obtain ⟨hguar, hrest⟩ := hstep env r s₂ hassume hexec
    exact ⟨hguar, ih r hrest⟩

theorem bind {p : Prog Act ε α} {f : α → Prog Act ε β} {R : Except ε β → σ → Prop}
    (h : Safe C t p (fun
      | .ok a => Safe C t (f a) R
      | .error e => R (.error e)) s) : Safe C t (p.bind f) R s := by
  induction p generalizing s with
  | pure a => exact h
  | throw e => exact h
  | act a k ih =>
    intro s₁ hrely hinv
    obtain ⟨hcheck, hstep⟩ := h s₁ hrely hinv
    refine ⟨hcheck, fun env r s₂ hassume hexec => ?_⟩
    obtain ⟨hguar, hrest⟩ := hstep env r s₂ hassume hexec
    exact ⟨hguar, ih r hrest⟩

theorem attempt {p : Prog Act ε α} {R : Except ε (Except ε α) → σ → Prop}
    (h : Safe C t p (fun r => R (.ok r)) s) : Safe C t p.attempt R s := by
  induction p generalizing s with
  | pure a => exact h
  | throw e => exact h
  | act a k ih =>
    intro s₁ hrely hinv
    obtain ⟨hcheck, hstep⟩ := h s₁ hrely hinv
    refine ⟨hcheck, fun env r s₂ hassume hexec => ?_⟩
    obtain ⟨hguar, hrest⟩ := hstep env r s₂ hassume hexec
    exact ⟨hguar, ih r hrest⟩

theorem tryCatch {p : Prog Act ε α} {h : ε → Prog Act ε α}
    (hp : Safe C t p (fun
      | .ok a => Q (.ok a)
      | .error e => Safe C t (h e) Q) s) : Safe C t (p.tryCatch h) Q s := by
  refine bind (attempt (hp.mono ?_))
  intro r s hr
  cases r with
  | ok a => exact hr
  | error e => exact hr

theorem tryFinally {p : Prog Act ε α} {fin : Prog Act ε Unit}
    (hp : Safe C t p (fun r => Safe C t fin (fun
      | .ok _ => Q r
      | .error e => Q (.error e))) s) : Safe C t (p.tryFinally fin) Q s := by
  refine bind (attempt (hp.mono fun r s hfin => bind (hfin.mono fun r' s h => ?_)))
  cases r' with
  | ok _ => cases r <;> exact h
  | error e => exact h

/-- Run a program, then go on with its value. -/
theorem seq {p : Prog Act ε α} {f : α → Prog Act ε β} {R : Except ε β → σ → Prop}
    (h : Safe C t p Q s) (hok : ∀ a s, Q (.ok a) s → Safe C t (f a) R s)
    (herr : ∀ e s, Q (.error e) s → R (.error e) s) : Safe C t (p >>= f) R s := by
  refine bind (h.mono fun r s hr => ?_)
  cases r with
  | ok a => exact hok a s hr
  | error e => exact herr e s hr

theorem ignoring {p : Prog Act ε Unit} {R : Except ε Unit → σ → Prop} {P : σ → Prop}
    (hp : Safe C t p (fun _ => P) s) (hR : ∀ s, P s → R (.ok ()) s) :
    Safe C t p.ignoring R s := by
  refine tryCatch (hp.mono fun r s hP => ?_)
  cases r with
  | ok _ => exact hR s hP
  | error _ => exact hR s hP

/-- One action. -/
theorem call {a : Act α}
    (h : ∀ s₁, C.rely t s s₁ → C.inv s₁ → C.check t a s₁ ∧
      ∀ env r s₂, C.assume t a env s₁ → S.exec t a env s₁ = (r, s₂) →
        C.guar t s₁ s₂ ∧ Q r s₂) :
    Safe C t (.call a) Q s := by
  intro s₁ hrely hinv
  obtain ⟨hcheck, hstep⟩ := h s₁ hrely hinv
  refine ⟨hcheck, fun env r s₂ hassume hexec => ?_⟩
  obtain ⟨hguar, hQ⟩ := hstep env r s₂ hassume hexec
  refine ⟨hguar, ?_⟩
  cases r <;> exact hQ

end Safe

/-- `P` survives what the other threads do. -/
def Stable (C : Contract S) (t : ThreadId) (P : σ → Prop) : Prop :=
  ∀ s s', P s → C.rely t s s' → P s'

/-- The actions in `N` keep the contract, and keep `P`. -/
def Neutral (C : Contract S) (t : ThreadId) (N : ∀ {β : Type}, Act β → Prop)
    (P : σ → Prop) : Prop :=
  ∀ {β : Type} (a : Act β), N a → ∀ s, C.inv s → P s → C.check t a s ∧
    ∀ env r s', C.assume t a env s → S.exec t a env s = (r, s') → C.guar t s s' ∧ P s'

/-- The action keeps the contract, and leads from `P` to `Q`. -/
def Triple (C : Contract S) (t : ThreadId) (P : σ → Prop) (a : Act β)
    (Q : Except ε β → σ → Prop) : Prop :=
  ∀ s, C.inv s → P s → C.check t a s ∧ ∀ env r s', C.assume t a env s →
    S.exec t a env s = (r, s') → C.guar t s s' ∧ Q r s'

theorem Triple.safe {P : σ → Prop} {a : Act β} {Q : Except ε β → σ → Prop} {s : σ}
    (h : Triple C t P a Q) (hstable : Stable C t P) (hP : P s) : Safe C t (.call a) Q s :=
  Safe.call fun s₁ hrely hinv => h s₁ hinv (hstable s s₁ hP hrely)

theorem Stable.and {P P' : σ → Prop} (h : Stable C t P) (h' : Stable C t P') :
    Stable C t fun s => P s ∧ P' s :=
  fun s s' hP hrely => ⟨h s s' hP.1 hrely, h' s s' hP.2 hrely⟩

/-- A program of neutral actions keeps `P`, whether it returns or raises. -/
theorem Safe.of_all {N : ∀ {β : Type}, Act β → Prop} {P : σ → Prop} (hstable : Stable C t P)
    (hN : Neutral C t N P) {p : Prog Act ε α} (hp : p.All N) {s : σ} (h : P s) :
    Safe C t p (fun _ => P) s := by
  induction p generalizing s with
  | pure a => exact h
  | throw e => exact h
  | act a k ih =>
    intro s₁ hrely hinv
    obtain ⟨hcheck, hstep⟩ := hN a hp.1 s₁ hinv (hstable s s₁ h hrely)
    refine ⟨hcheck, fun env r s₂ hassume hexec => ?_⟩
    obtain ⟨hguar, hP⟩ := hstep env r s₂ hassume hexec
    exact ⟨hguar, ih r (hp.2 r) hP⟩

/-- What the others keep and every action of the program keeps holds at its end. -/
theorem Safe.and_all {N : ∀ {β : Type}, Act β → Prop} {P : σ → Prop} (hstable : Stable C t P)
    (hN : ∀ {β : Type} (a : Act β), N a → ∀ env s r s', P s → S.exec t a env s = (r, s') → P s')
    {p : Prog Act ε α} (hp : p.All N) {Q : Except ε α → σ → Prop} {s : σ} (h : Safe C t p Q s)
    (hP : P s) : Safe C t p (fun r s => Q r s ∧ P s) s := by
  induction p generalizing s with
  | pure a => exact ⟨h, hP⟩
  | throw e => exact ⟨h, hP⟩
  | act a k ih =>
    intro s₁ hrely hinv
    obtain ⟨hcheck, hstep⟩ := h s₁ hrely hinv
    refine ⟨hcheck, fun env r s₂ hassume hexec => ?_⟩
    obtain ⟨hguar, hrest⟩ := hstep env r s₂ hassume hexec
    exact ⟨hguar, ih r (hp.2 r) hrest (hN a hp.1 env s₁ r s₂ (hstable s s₁ hP hrely) hexec)⟩

/-- What follows a program of neutral actions need only be right for what it can return. -/
theorem Safe.seq_returns {N : ∀ {β : Type}, Act β → Prop} {P : σ → Prop} (hstable : Stable C t P)
    (hN : Neutral C t N P) {p : Prog Act ε α} (hp : p.All N) {V : α → Prop} (hret : p.Returns V)
    {f : α → Prog Act ε β} {R : Except ε β → σ → Prop} {s : σ} (h : P s)
    (hok : ∀ a s, V a → P s → Safe C t (f a) R s) (herr : ∀ e s, P s → R (.error e) s) :
    Safe C t (p >>= f) R s := by
  show Safe C t (p.bind f) R s
  induction p generalizing s with
  | pure a => exact hok a s hret h
  | throw e => exact herr e s h
  | act a k ih =>
    intro s₁ hrely hinv
    obtain ⟨hcheck, hstep⟩ := hN a hp.1 s₁ hinv (hstable s s₁ h hrely)
    refine ⟨hcheck, fun env r s₂ hassume hexec => ?_⟩
    obtain ⟨hguar, hP⟩ := hstep env r s₂ hassume hexec
    exact ⟨hguar, ih r (hp.2 r) (hret r) hP⟩

/-- What the others and the thread itself keep holds at the end of every safe program. -/
theorem Safe.persist {P : σ → Prop} (hstable : Stable C t P)
    (hguar : ∀ s s', C.inv s → P s → C.guar t s s' → P s') {p : Prog Act ε α}
    {Q : Except ε α → σ → Prop} {s : σ} (h : Safe C t p Q s) (hP : P s) :
    Safe C t p (fun r s => Q r s ∧ P s) s := by
  induction p generalizing s with
  | pure a => exact ⟨h, hP⟩
  | throw e => exact ⟨h, hP⟩
  | act a k ih =>
    intro s₁ hrely hinv
    obtain ⟨hcheck, hstep⟩ := h s₁ hrely hinv
    refine ⟨hcheck, fun env r s₂ hassume hexec => ?_⟩
    obtain ⟨hguar₂, hrest⟩ := hstep env r s₂ hassume hexec
    exact ⟨hguar₂, ih r hrest (hguar s₁ s₂ hinv (hstable s s₁ hP hrely) hguar₂)⟩

/-! ## More actions -/

/-- The part of a system that performs the actions of `Act`, which are among its own. -/
def System.restrict {Act' : Type → Type 1} (S : System Act' ε σ Env Op)
    (f : ∀ {β : Type}, Act β → Act' β) : System Act ε σ Env Op where
  exec t {_} a := S.exec t (f a)
  program _ := .pure ()
  finish := S.finish
  restart := S.restart

/-- The contract for those actions. -/
def Contract.restrict {Act' : Type → Type 1} {S : System Act' ε σ Env Op} (C : Contract S)
    (f : ∀ {β : Type}, Act β → Act' β) : Contract (S.restrict f) where
  inv := C.inv
  rely := C.rely
  guar := C.guar
  clean := C.clean
  assume t {_} a := C.assume t (f a)
  check t {_} a := C.check t (f a)
  rely_refl := C.rely_refl
  rely_trans := C.rely_trans
  clean_rely := C.clean_rely
  inv_guar := C.inv_guar
  rely_guar := C.rely_guar

/-- A program that is safe by itself is safe among more actions. -/
theorem Safe.embed {Act' : Type → Type 1} {S : System Act' ε σ Env Op} {C : Contract S}
    {f : ∀ {β : Type}, Act β → Act' β} {p : Prog Act ε α} {Q : Except ε α → σ → Prop} {s : σ}
    (h : Safe (C.restrict f) t p Q s) : Safe C t (p.embed f) Q s := by
  induction p generalizing s with
  | pure a => exact h
  | throw e => exact h
  | act a k ih =>
    intro s₁ hrely hinv
    obtain ⟨hcheck, hstep⟩ := h s₁ hrely hinv
    refine ⟨hcheck, fun env r s₂ hassume hexec => ?_⟩
    obtain ⟨hguar, hrest⟩ := hstep env r s₂ hassume hexec
    exact ⟨hguar, ih r hrest⟩

/-! ## Soundness -/

/-- What the end of a thread may do. -/
def Contract.Finishes (C : Contract S) (t : ThreadId) (s : σ) : Prop :=
  C.inv s → C.inv (S.finish t s) ∧ C.clean t (S.finish t s) ∧ ∀ t', t' ≠ t → C.rely t' s (S.finish t s)

/-- The events that a run may have: operations in `ops`, actions that meet the assumption, and
restarts if `restarts`. -/
def Contract.Permits (C : Contract S) (ops : Op → Prop) (restarts : Prop) (c : Config Act ε σ) :
    Event Env Op → Prop
  | .spawn op => ops op
  | .step t env => c.Next t fun a => C.assume t a env c.shared
  | .restart => restarts

/-- Every operation is safe. -/
structure Contract.Sound (C : Contract S) (ops : Op → Prop) (restarts : Prop) : Prop where
  safe : ∀ op, ops op → ∀ t s, C.inv s → C.clean t s →
    Safe C t (S.program op) (fun _ => C.Finishes t) s
  restart : restarts → ∀ s, C.inv s → C.inv (S.restart s) ∧ ∀ t, C.clean t (S.restart s)

/-- The invariant of the configurations: each thread in flight is safe from a state that the
others have only changed as they may. -/
structure Contract.Holds (C : Contract S) (c : Config Act ε σ) : Prop where
  inv : C.inv c.shared
  safe : ∀ t p, Dict.get? c.threads t = some p →
    ∃ s, C.rely t s c.shared ∧ Safe C t p (fun _ => C.Finishes t) s
  clean : ∀ t, Dict.get? c.threads t = none → C.clean t c.shared
  fresh : ∀ t, c.next ≤ t → Dict.get? c.threads t = none

namespace Contract

theorem holds_initial {s : σ} (hinv : C.inv s) (hclean : ∀ t, C.clean t s) :
    C.Holds (Config.initial s) where
  inv := hinv
  safe := fun t p h => by cases h
  clean := fun t _ => hclean t
  fresh := fun _ _ => rfl

/-- The configuration after a thread has moved the shared state and goes on with `p`. -/
theorem holds_resume {c : Config Act ε σ} {t : ThreadId} {s : σ} {p : Prog Act ε Unit}
    (h : C.Holds c) (ht : (Dict.get? c.threads t).isSome) (hinv : C.inv s)
    (hguar : ∀ t', t' ≠ t → C.rely t' c.shared s)
    (hsafe : Safe C t p (fun _ => C.Finishes t) s) :
    C.Holds (({ c with shared := s } : Config Act ε σ).resume S t p) := by
  have hlt : ∀ t', c.next ≤ t' → t' ≠ t := by
    rintro t' hle rfl
    rw [h.fresh t' hle] at ht
    cases ht
  have hend : ∀ hfin : C.inv (S.finish t s) ∧ C.clean t (S.finish t s) ∧
      ∀ t', t' ≠ t → C.rely t' s (S.finish t s), C.Holds
      ({ c with shared := S.finish t s, threads := Dict.pop c.threads t } : Config Act ε σ) := by
    intro hfin
    refine ⟨hfin.1, ?_, ?_, ?_⟩
    · intro t' p' hget
      simp only [Dict.get?_pop] at hget
      split at hget
      · cases hget
      · next hne =>
        obtain ⟨s₀, hrely, hs₀⟩ := h.safe t' p' hget
        exact ⟨s₀, C.rely_trans (C.rely_trans hrely (hguar t' hne)) (hfin.2.2 t' hne), hs₀⟩
    · intro t' hget
      by_cases hne : t' = t
      · subst hne
        exact hfin.2.1
      · simp only [Dict.get?_pop, hne, ↓reduceIte] at hget
        exact C.clean_rely (C.clean_rely (h.clean t' hget) (hguar t' hne)) (hfin.2.2 t' hne)
    · intro t' hle
      simp only [Dict.get?_pop, hlt t' hle, ↓reduceIte]
      exact h.fresh t' hle
  cases p with
  | pure a => exact hend (hsafe hinv)
  | throw e => exact hend (hsafe hinv)
  | act a k =>
    refine ⟨hinv, ?_, ?_, ?_⟩
    · intro t' p' hget
      simp only [Config.resume, Dict.get?_set] at hget
      split at hget
      · next heq =>
        subst heq
        cases hget
        exact ⟨s, C.rely_refl t' s, hsafe⟩
      · next hne =>
        obtain ⟨s₀, hrely, hs₀⟩ := h.safe t' p' hget
        exact ⟨s₀, C.rely_trans hrely (hguar t' hne), hs₀⟩
    · intro t' hget
      simp only [Config.resume, Dict.get?_set] at hget
      split at hget
      · cases hget
      · next hne => exact C.clean_rely (h.clean t' hget) (hguar t' hne)
    · intro t' hle
      simp only [Config.resume, Dict.get?_set, hlt t' hle, ↓reduceIte]
      exact h.fresh t' hle

variable {ops : Op → Prop} {restarts : Prop}

theorem Sound.holds_spawn (hC : C.Sound ops restarts) {c : Config Act ε σ} {op : Op}
    (hok : ops op) (h : C.Holds c) :
    C.Holds (Config.apply S (.spawn op : Event Env Op) c) := by
  have hsafe := hC.safe op hok c.next c.shared h.inv (h.clean _ (h.fresh _ (Nat.le_refl _)))
  have hdone : C.Holds { c with next := c.next + 1 } :=
    ⟨h.inv, h.safe, h.clean, fun t hle => h.fresh t (Nat.le_of_succ_le hle)⟩
  cases hp : S.program op with
  | pure a => exact Config.apply_spawn_done (fun _ _ => by rw [hp]; simp) c ▸ hdone
  | throw e => exact Config.apply_spawn_done (fun _ _ => by rw [hp]; simp) c ▸ hdone
  | act a k =>
    rw [hp] at hsafe
    rw [Config.apply_spawn hp]
    refine ⟨h.inv, ?_, ?_, ?_⟩
    · intro t p hget
      simp only [Dict.get?_set] at hget
      split at hget
      · next heq =>
        subst heq
        cases hget
        exact ⟨c.shared, C.rely_refl _ _, hsafe⟩
      · exact h.safe t p hget
    · intro t hget
      simp only [Dict.get?_set] at hget
      split at hget
      · cases hget
      · exact h.clean t hget
    · intro t hle
      have hne : t ≠ c.next := fun heq => absurd (heq ▸ hle) (Nat.not_succ_le_self _)
      simp only [Dict.get?_set, hne, ↓reduceIte]
      exact h.fresh t (Nat.le_of_succ_le hle)

/-- The action that a thread performs does what actions of this thread do. -/
theorem Holds.guar {c : Config Act ε σ} {t : ThreadId} {env : Env} (h : C.Holds c) {a : Act β}
    {k : Except ε β → Prog Act ε Unit} (hget : Dict.get? c.threads t = some (.act a k))
    (hassume : C.assume t a env c.shared) : C.guar t c.shared (S.exec t a env c.shared).2 := by
  obtain ⟨s, hrely, hsafe⟩ := h.safe t _ hget
  exact ((hsafe c.shared hrely h.inv).2 env _ _ hassume (Prod.ext rfl rfl)).1

theorem holds_step {c : Config Act ε σ} {t : ThreadId} {env : Env}
    (hok : c.Next t fun a => C.assume t a env c.shared) (h : C.Holds c) :
    C.Holds (Config.apply S (.step t env : Event Env Op) c) := by
  by_cases hact : ∃ (β : Type) (a : Act β) (k : Except ε β → Prog Act ε Unit),
      Dict.get? c.threads t = some (.act a k)
  · obtain ⟨β, a, k, hget⟩ := hact
    obtain ⟨s₀, hrely, hsafe⟩ := h.safe t _ hget
    obtain ⟨hguar, hrest⟩ :=
      (hsafe c.shared hrely h.inv).2 env _ _ (hok β a k hget) (Prod.ext rfl rfl)
    rw [Config.apply_step hget]
    exact holds_resume h (by rw [hget]; rfl) (C.inv_guar h.inv hguar)
      (fun t' hne => C.rely_guar h.inv hguar hne) hrest
  · rw [Config.apply_step_none fun a k hget => hact ⟨_, a, k, hget⟩]
    exact h

/-- Every permitted event keeps the invariant of the configurations. -/
theorem Sound.holds_apply (hC : C.Sound ops restarts) {c : Config Act ε σ} {ev : Event Env Op}
    (hok : C.Permits ops restarts c ev) (h : C.Holds c) : C.Holds (Config.apply S ev c) := by
  cases ev with
  | spawn op => exact hC.holds_spawn hok h
  | step t env => exact holds_step hok h
  | restart =>
    obtain ⟨hinv, hclean⟩ := hC.restart hok c.shared h.inv
    exact ⟨hinv, fun t p hget => (by cases hget), fun t _ => hclean t, fun _ _ => rfl⟩

/-- The invariant of the configurations holds after every permitted run. -/
theorem Sound.holds_run (hC : C.Sound ops restarts) {c : Config Act ε σ}
    {events : List (Event Env Op)} (hok : Config.Along S (C.Permits ops restarts) events c)
    (h : C.Holds c) : C.Holds (Config.run S events c) :=
  Config.run_invariant (fun _ _ hok h => hC.holds_apply hok h) hok h

/-- What follows from the invariant of the configurations is met along every permitted run. -/
theorem Sound.along_of_holds (hC : C.Sound ops restarts) {ok : Config Act ε σ → Event Env Op → Prop}
    (hok : ∀ c ev, C.Permits ops restarts c ev → C.Holds c → ok c ev) {c : Config Act ε σ}
    {events : List (Event Env Op)} (hevents : Config.Along S (C.Permits ops restarts) events c)
    (h : C.Holds c) : Config.Along S ok events c := by
  induction events generalizing c with
  | nil => trivial
  | cons ev events ih => exact ⟨hok c ev hevents.1 h, ih hevents.2 (hC.holds_apply hevents.1 h)⟩

/-- In a state in which no operation is in flight, every thread is clean. -/
theorem Holds.clean_of_quiescent {c : Config Act ε σ} (h : C.Holds c) (hq : c.Quiescent)
    (t : ThreadId) : C.clean t c.shared := by
  refine h.clean t (Option.map_eq_none_iff.mpr (List.find?_eq_none.mpr ?_))
  rw [hq]
  exact fun _ hm => absurd hm List.not_mem_nil

/-- The check holds at the action that a thread is about to perform. -/
theorem Holds.check {c : Config Act ε σ} (h : C.Holds c) (t : ThreadId) :
    c.Next t fun a => C.check t a c.shared := by
  intro β a k hget
  obtain ⟨s, hrely, hsafe⟩ := h.safe t _ hget
  exact (hsafe c.shared hrely h.inv).1

end Contract

end Threads
