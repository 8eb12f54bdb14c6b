import KerSorMonitor.Lib.RelyGuarantee

/-!
# One program among others

The runs of one program when the other threads may do anything between two of its actions: each
action finds the state that the others left. A run comes with these states and the answers of
the environment, one pair for each action. What the program itself did is kept in a ghost value,
which no program reads: `note` says how an action changes it. Under the contract `exposed`
nothing is known of the state before an action, only what was noted so far.

Results:
1. `Exposed.of_run`: what is safe holds at the end of every run.
-/

namespace Threads

variable {Act : Type → Type 1} {ε σ γ Env Op α β : Type}

/-- The system with a ghost value beside its state. -/
def System.noting (S : System Act ε σ Env Op)
    (note : {β : Type} → Act β → Env → σ → γ → γ) : System Act ε (σ × γ) Env Op where
  exec t _ a env s := ((S.exec t a env s.1).1, (S.exec t a env s.1).2, note a env s.1 s.2)
  program := S.program
  finish t s := (S.finish t s.1, s.2)
  restart s := (S.restart s.1, s.2)

/-- The program from its start to its end, if there is one pair for each action. -/
def Prog.exposed (S : System Act ε σ Env Op) (t : ThreadId)
    (note : {β : Type} → Act β → Env → σ → γ → γ) :
    Prog Act ε α → List (σ × Env) → γ → Option (Except ε α × γ)
  | .pure a, found, g => if found.isEmpty then some (.ok a, g) else none
  | .throw e, found, g => if found.isEmpty then some (.error e, g) else none
  | .act _ _, [], _ => none
  | .act a k, (s, env) :: found, g =>
    (k (S.exec t a env s).1).exposed S t note found (note a env s g)

/-- Every action of the run is allowed. -/
def Prog.Suffers (S : System Act ε σ Env Op) (t : ThreadId)
    (allow : {β : Type} → Act β → Env → σ → Prop) : Prog Act ε α → List (σ × Env) → Prop
  | .pure _, _ => True
  | .throw _, _ => True
  | .act _ _, [] => True
  | .act a k, (s, env) :: found =>
    allow a env s ∧ (k (S.exec t a env s).1).Suffers S t allow found

instance Prog.decidableSuffers {S : System Act ε σ Env Op} {t : ThreadId}
    {allow : {β : Type} → Act β → Env → σ → Prop}
    [hallow : ∀ {β : Type} (a : Act β) env s, Decidable (allow a env s)] :
    ∀ (p : Prog Act ε α) (found : List (σ × Env)), Decidable (p.Suffers S t allow found)
  | .pure _, _ => isTrue trivial
  | .throw _, _ => isTrue trivial
  | .act _ _, [] => isTrue trivial
  | .act a k, (s, env) :: found =>
    match hallow a env s, decidableSuffers (k (S.exec t a env s).1) found with
    | isTrue h, isTrue h' => isTrue ⟨h, h'⟩
    | isFalse h, _ => isFalse fun hall => h hall.1
    | _, isFalse h => isFalse fun hall => h hall.2

theorem Prog.suffers_of_forall {S : System Act ε σ Env Op} {t : ThreadId}
    {allow : {β : Type} → Act β → Env → σ → Prop} (p : Prog Act ε α) (found : List (σ × Env))
    (h : ∀ {β : Type} (a : Act β) env s, allow a env s) : p.Suffers S t allow found := by
  induction p generalizing found with
  | pure a => trivial
  | throw e => trivial
  | act a k ih =>
    cases found with
    | nil => trivial
    | cons pair found => exact ⟨h a pair.2 pair.1, ih _ found⟩

/-! ## The contract of an exposed thread -/

/-- The others change the state as they like, and not what is noted of thread `t`. -/
def Contract.exposed (S : System Act ε σ Env Op) (t : ThreadId)
    (note : {β : Type} → Act β → Env → σ → γ → γ)
    (allow : {β : Type} → Act β → Env → σ → Prop) : Contract (S.noting note) where
  inv _ := True
  rely t' s s' := t' = t → s'.2 = s.2
  guar t' s s' := t' = t ∨ s' = s
  clean _ _ := True
  assume _ {_} a env s := allow a env s.1
  check _ {_} _ _ := True
  rely_refl _ _ _ := rfl
  rely_trans h h' ht := (h' ht).trans (h ht)
  clean_rely _ _ := trivial
  inv_guar _ _ := trivial
  rely_guar _ hguar hne ht :=
    congrArg Prod.snd (hguar.resolve_left fun h => hne (ht.trans h.symm))

namespace Exposed

variable {S : System Act ε σ Env Op} {t : ThreadId}
  {note : {β : Type} → Act β → Env → σ → γ → γ}
  {allow : {β : Type} → Act β → Env → σ → Prop}

theorem call {a : Act α} {Q : Except ε α → σ × γ → Prop} {s : σ × γ}
    (h : ∀ env found, allow a env found → Q (S.exec t a env found).1
      ((S.exec t a env found).2, note a env found s.2)) :
    Safe (.exposed S t note allow) t (.call a) Q s := by
  refine Safe.call fun s₁ hrely _ => ?_
  refine ⟨trivial, fun env r s' hallow hexec => ⟨Or.inl rfl, ?_⟩⟩
  obtain ⟨rfl, rfl⟩ := Prod.mk.inj hexec
  rw [hrely rfl]
  exact h env s₁.1 hallow

/-- What every action of the program keeps of the ghost value holds at its end. -/
theorem of_all {N : {β : Type} → Act β → Prop} {P : γ → Prop}
    (hN : ∀ {β : Type} (a : Act β), N a → ∀ env s g, allow a env s → P g → P (note a env s g))
    {p : Prog Act ε α} (hp : p.All N) {s : σ × γ} (h : P s.2) :
    Safe (.exposed S t note allow) t p (fun _ s => P s.2) s := by
  refine Safe.of_all (P := fun s : σ × γ => P s.2) (fun s s' hP hrely => ?_) ?_ hp h
  · change P s'.2
    rw [hrely rfl]
    exact hP
  · intro β a ha s _ hP
    refine ⟨trivial, fun env r s' hallow hexec => ⟨Or.inl rfl, ?_⟩⟩
    obtain ⟨-, rfl⟩ := Prod.mk.inj hexec
    exact hN a ha env s.1 s.2 hallow hP

/-- Nothing is asked of the program. -/
theorem any (p : Prog Act ε α) (s : σ × γ) :
    Safe (.exposed S t note allow) t p (fun _ _ => True) s :=
  of_all (N := fun _ => True) (P := fun _ => True) (fun _ _ _ _ _ _ _ => trivial)
    (p.all_of_forall fun _ => trivial) trivial

theorem of_run {p : Prog Act ε α} {Q : Except ε α → γ → Prop} {s : σ × γ}
    (h : Safe (.exposed S t note allow) t p (fun r s => Q r s.2) s) {found : List (σ × Env)}
    (hok : p.Suffers S t allow found) {r : Except ε α} {g : γ}
    (hp : p.exposed S t note found s.2 = some (r, g)) : Q r g := by
  induction p generalizing s found with
  | pure a =>
    simp only [Prog.exposed, Option.ite_none_right_eq_some, Option.some.injEq] at hp
    obtain ⟨-, heq⟩ := hp
    cases heq
    exact h
  | throw e =>
    simp only [Prog.exposed, Option.ite_none_right_eq_some, Option.some.injEq] at hp
    obtain ⟨-, heq⟩ := hp
    cases heq
    exact h
  | act a k ih =>
    cases found with
    | nil => cases hp
    | cons pair found =>
      obtain ⟨found₀, env⟩ := pair
      obtain ⟨-, hstep⟩ := h (found₀, s.2) (fun _ => rfl) trivial
      exact ih _ (hstep env _ _ hok.1 rfl).2 hok.2 hp

end Exposed

end Threads
