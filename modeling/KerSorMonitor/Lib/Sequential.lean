import KerSorMonitor.Lib.Machine
import KerSorMonitor.Lib.RelyGuarantee

/-!
# One operation after the other

The operations of a system when each of them ends before the next one starts. An operation comes
with the answers of the environment, one for each action that it performs. Under the contract
`alone` nothing happens between two actions of the thread, and `Safe` is a weakest precondition.

Results:
1. `Prog.perform_returns`, `Prog.perform_throws`: what a performance returns and raises.
2. `Alone.of_perform`: what is safe holds at the end of the program.
3. `System.run_performed`: what every operation keeps, however it ends, holds after every run.
-/

namespace Threads

variable {Act : Type → Type 1} {ε σ Env Op α β : Type}

/-! ## Performances -/

namespace Prog

/-- The program from its start to its end, if there is one answer for each action. -/
def perform (S : System Act ε σ Env Op) (t : ThreadId) :
    Prog Act ε α → List Env → σ → Option (Except ε α × σ)
  | .pure a, envs, s => if envs.isEmpty then some (.ok a, s) else none
  | .throw e, envs, s => if envs.isEmpty then some (.error e, s) else none
  | .act _ _, [], _ => none
  | .act a k, env :: envs, s =>
    (k (S.exec t a env s).1).perform S t envs (S.exec t a env s).2

/-- Every action of the performance is allowed. -/
def Permitted (S : System Act ε σ Env Op) (t : ThreadId)
    (allow : {β : Type} → Act β → Env → σ → Prop) : Prog Act ε α → List Env → σ → Prop
  | .pure _, _, _ => True
  | .throw _, _, _ => True
  | .act _ _, [], _ => True
  | .act a k, env :: envs, s =>
    allow a env s ∧ (k (S.exec t a env s).1).Permitted S t allow envs (S.exec t a env s).2

instance decidablePermitted {S : System Act ε σ Env Op} {t : ThreadId}
    {allow : {β : Type} → Act β → Env → σ → Prop}
    [hallow : ∀ {β : Type} (a : Act β) env s, Decidable (allow a env s)] :
    ∀ (p : Prog Act ε α) (envs : List Env) (s : σ), Decidable (p.Permitted S t allow envs s)
  | .pure _, _, _ => isTrue trivial
  | .throw _, _, _ => isTrue trivial
  | .act _ _, [], _ => isTrue trivial
  | .act a k, env :: envs, s =>
    match hallow a env s, decidablePermitted (k (S.exec t a env s).1) envs (S.exec t a env s).2 with
    | isTrue h, isTrue h' => isTrue ⟨h, h'⟩
    | isFalse h, _ => isFalse fun hall => h hall.1
    | _, isFalse h => isFalse fun hall => h hall.2

theorem Permitted.mono {S : System Act ε σ Env Op} {t : ThreadId}
    {allow allow' : {β : Type} → Act β → Env → σ → Prop}
    (h : ∀ {β : Type} (a : Act β) env s, allow a env s → allow' a env s) {p : Prog Act ε α}
    {envs : List Env} {s : σ} (hp : p.Permitted S t allow envs s) :
    p.Permitted S t allow' envs s := by
  induction p generalizing envs s with
  | pure a => trivial
  | throw e => trivial
  | act a k ih =>
    cases envs with
    | nil => trivial
    | cons env envs => exact ⟨h a env s hp.1, ih _ hp.2⟩

theorem permitted_of_forall {S : System Act ε σ Env Op} {t : ThreadId}
    {allow : {β : Type} → Act β → Env → σ → Prop} (p : Prog Act ε α) (envs : List Env) (s : σ)
    (h : ∀ {β : Type} (a : Act β) env s, allow a env s) : p.Permitted S t allow envs s := by
  induction p generalizing envs s with
  | pure a => trivial
  | throw e => trivial
  | act a k ih =>
    cases envs with
    | nil => trivial
    | cons env envs => exact ⟨h a env s, ih _ envs _⟩

/-- Where every action is answered, every program has a performance. -/
theorem exists_perform {S : System Act ε σ Env Op} {t : ThreadId}
    {allow : {β : Type} → Act β → Env → σ → Prop}
    (hallow : ∀ {β : Type} (a : Act β) s, ∃ env, allow a env s) (p : Prog Act ε α) (s : σ) :
    ∃ envs r s', p.perform S t envs s = some (r, s') ∧ p.Permitted S t allow envs s := by
  induction p generalizing s with
  | pure a => exact ⟨[], .ok a, s, rfl, trivial⟩
  | throw e => exact ⟨[], .error e, s, rfl, trivial⟩
  | act a k ih =>
    obtain ⟨env, henv⟩ := hallow a s
    obtain ⟨envs, r, s', hperform, hpermitted⟩ := ih (S.exec t a env s).1 (S.exec t a env s).2
    exact ⟨env :: envs, r, s', hperform, henv, hpermitted⟩

/-- What is returned is one of the values that the program can return. -/
theorem perform_returns {S : System Act ε σ Env Op} {t : ThreadId} {R : α → Prop}
    {p : Prog Act ε α} (hp : p.Returns R) {envs : List Env} {s s' : σ} {a : α}
    (h : p.perform S t envs s = some (.ok a, s')) : R a := by
  induction p generalizing envs s with
  | pure b =>
    unfold perform at h
    split at h
    · cases h
      exact hp
    · cases h
  | throw e =>
    unfold perform at h
    split at h <;> cases h
  | act b k ih =>
    cases envs with
    | nil => cases h
    | cons env envs => exact ih _ (hp _) h

theorem perform_call {S : System Act ε σ Env Op} {t : ThreadId} (a : Act α) (env : Env) (s : σ) :
    (call a : Prog Act ε α).perform S t [env] s = some (S.exec t a env s) := by
  cases hexec : S.exec t a env s with
  | mk r s' =>
    unfold call perform
    rw [hexec]
    cases r <;> rfl

/-- A performance goes on with what its first part returns. -/
theorem perform_bind_of_ok {S : System Act ε σ Env Op} {t : ThreadId} {p : Prog Act ε α}
    {f : α → Prog Act ε β} {envs : List Env} (envs' : List Env) {s s' : σ} {a : α}
    (h : p.perform S t envs s = some (.ok a, s')) :
    (p >>= f).perform S t (envs ++ envs') s = (f a).perform S t envs' s' := by
  change (p.bind f).perform S t (envs ++ envs') s = _
  induction p generalizing envs s with
  | pure b =>
    unfold perform at h
    split at h
    · next hnil =>
      cases h
      rw [List.isEmpty_iff.mp hnil]
      rfl
    · cases h
  | throw e =>
    unfold perform at h
    split at h <;> cases h
  | act b k ih =>
    cases envs with
    | nil => cases h
    | cons env envs => exact ih _ h

/-- Every error that the program can raise satisfies `E`, if those of its actions do. -/
def Throws (E : ε → Prop) : Prog Act ε α → Prop
  | .pure _ => True
  | .throw e => E e
  | .act _ k => ∀ r, (∀ e, r = .error e → E e) → (k r).Throws E

section Throws

variable {E : ε → Prop}

theorem throws_call (a : Act α) : (call a : Prog Act ε α).Throws E := by
  intro r hr
  cases r with
  | ok a => trivial
  | error e => exact hr e rfl

theorem Throws.bind {p : Prog Act ε α} {f : α → Prog Act ε β} (hp : p.Throws E)
    (hf : ∀ a, (f a).Throws E) : (p >>= f).Throws E := by
  change (p.bind f).Throws E
  induction p with
  | pure a => exact hf a
  | throw e => exact hp
  | act a k ih => exact fun r hr => ih r (hp r hr)

/-- What a performance raises. -/
theorem perform_throws {S : System Act ε σ Env Op} {t : ThreadId} {p : Prog Act ε α}
    (hp : p.Throws E) {envs : List Env}
    (hacts : ∀ env ∈ envs, ∀ {β : Type} (a : Act β) s e, (S.exec t a env s).1 = .error e → E e)
    {s s' : σ} {e : ε} (h : p.perform S t envs s = some (.error e, s')) : E e := by
  induction p generalizing envs s with
  | pure b =>
    unfold perform at h
    split at h <;> cases h
  | throw e' =>
    unfold perform at h
    split at h
    · cases h
      exact hp
    · cases h
  | act b k ih =>
    cases envs with
    | nil => cases h
    | cons env envs =>
      refine ih _ (hp _ fun e he => hacts env (.head _) b s e he) (fun env' henv' => ?_) h
      exact hacts env' (.tail _ henv')

end Throws

/-- What an attempt returns. -/
theorem Returns.attempt {R : α → Prop} {p : Prog Act ε α} (hp : p.Returns R) :
    p.attempt.Returns fun r => ∀ a, r = .ok a → R a := by
  induction p with
  | pure a => exact fun b hb => by cases hb; exact hp
  | throw e => exact fun b hb => by cases hb
  | act a k ih => exact fun r => ih r (hp r)

end Prog

/-! ## The contract of a thread that runs alone -/

/-- Nothing happens between two actions of thread `t`. -/
def Contract.alone (S : System Act ε σ Env Op) (t : ThreadId)
    (allow : {β : Type} → Act β → Env → σ → Prop) : Contract S where
  inv _ := True
  rely t' s s' := t' = t → s = s'
  guar t' s s' := t' = t ∨ s = s'
  clean _ _ := True
  assume _ {_} a env s := allow a env s
  check _ {_} _ _ := True
  rely_refl _ _ _ := rfl
  rely_trans h h' ht := (h ht).trans (h' ht)
  clean_rely _ _ := trivial
  inv_guar _ _ := trivial
  rely_guar _ hguar hne ht := hguar.resolve_left fun h => hne (ht.trans h.symm)

namespace Alone

variable {S : System Act ε σ Env Op} {t : ThreadId} {allow : {β : Type} → Act β → Env → σ → Prop}
  {Q : Except ε α → σ → Prop} {s : σ}

theorem call {a : Act α}
    (h : ∀ env r s', allow a env s → S.exec t a env s = (r, s') → Q r s') :
    Safe (.alone S t allow) t (.call a) Q s := by
  refine Safe.call fun s₁ hrely _ => ?_
  obtain rfl := hrely rfl
  exact ⟨trivial, fun env r s' hallow hexec => ⟨Or.inl rfl, h env r s' hallow hexec⟩⟩

/-- What every action of the program keeps holds at its end. -/
theorem of_all {N : {β : Type} → Act β → Prop} {P : σ → Prop}
    (hN : ∀ {β : Type} (a : Act β), N a → ∀ env s r s', allow a env s → P s →
      S.exec t a env s = (r, s') → P s') {p : Prog Act ε α} (hp : p.All N) (h : P s) :
    Safe (.alone S t allow) t p (fun _ => P) s := by
  refine Safe.of_all (fun s s' hP hrely => hrely rfl ▸ hP) ?_ hp h
  intro β a ha s _ hP
  exact ⟨trivial, fun env r s' hallow hexec => ⟨Or.inl rfl, hN a ha env s r s' hallow hP hexec⟩⟩

theorem of_perform {p : Prog Act ε α} (h : Safe (.alone S t allow) t p Q s) {envs : List Env}
    (hok : p.Permitted S t allow envs s) {r : Except ε α} {s' : σ}
    (hp : p.perform S t envs s = some (r, s')) : Q r s' := by
  induction p generalizing s envs with
  | pure a =>
    simp only [Prog.perform, Option.ite_none_right_eq_some, Option.some.injEq] at hp
    obtain ⟨-, heq⟩ := hp
    cases heq
    exact h
  | throw e =>
    simp only [Prog.perform, Option.ite_none_right_eq_some, Option.some.injEq] at hp
    obtain ⟨-, heq⟩ := hp
    cases heq
    exact h
  | act a k ih =>
    cases envs with
    | nil => cases hp
    | cons env envs =>
      obtain ⟨-, hstep⟩ := h s (fun _ => rfl) trivial
      exact ih _ (hstep env _ _ hok.1 rfl).2 hok.2 hp

end Alone

/-- What a program can return is returned by every safe performance. -/
theorem Safe.and_returns {S : System Act ε σ Env Op} {C : Contract S} {t : ThreadId} {V : α → Prop}
    {p : Prog Act ε α} (hret : p.Returns V) {Q : Except ε α → σ → Prop} {s : σ}
    (h : Safe C t p Q s) : Safe C t p (fun r s => Q r s ∧ ∀ a, r = .ok a → V a) s := by
  induction p generalizing s with
  | pure a => exact ⟨h, fun _ ha => by cases ha; exact hret⟩
  | throw e => exact ⟨h, fun _ ha => by cases ha⟩
  | act a k ih =>
    intro s₁ hrely hinv
    obtain ⟨hcheck, hstep⟩ := h s₁ hrely hinv
    refine ⟨hcheck, fun env r s₂ hassume hexec => ?_⟩
    obtain ⟨hguar, hrest⟩ := hstep env r s₂ hassume hexec
    exact ⟨hguar, ih r (hret r) hrest⟩

/-! ## Runs -/

namespace System

variable (S : System Act ε σ Env Op) (t : ThreadId)

/-- How an operation ends. -/
def outcome (call : Op × List Env) (s : σ) : Option (Except ε Unit × σ) :=
  (S.program call.1).perform S t call.2 s

/-- The state after an operation. -/
def serve (call : Op × List Env) (s : σ) : σ :=
  ((S.outcome t call s).map fun r => S.finish t r.2).getD s

/-- Every action of the operation is allowed. -/
def Allowed (allow : Op → {β : Type} → Act β → Env → σ → Prop) (s : σ) (call : Op × List Env) :
    Prop := (S.program call.1).Permitted S t (allow call.1) call.2 s

instance {allow : Op → {β : Type} → Act β → Env → σ → Prop}
    [∀ op {β : Type} (a : Act β) env s, Decidable (allow op a env s)] (s : σ)
    (call : Op × List Env) : Decidable (S.Allowed t allow s call) :=
  Prog.decidablePermitted _ _ _

variable {S t}

/-- What every operation that may start keeps, however it ends, holds after every run. -/
theorem run_performed {P : σ → Prop} {starts : σ → Op → Prop}
    {allow : Op → {β : Type} → Act β → Env → σ → Prop}
    (hops : ∀ op s, starts s op → P s → Safe (.alone S t (allow op)) t (S.program op)
      (fun _ s' => P (S.finish t s')) s)
    {calls : List (Op × List Env)} {s : σ}
    (hok : Machine.Along (S.serve t)
      (fun s call => starts s call.1 ∧ S.Allowed t allow s call) calls s)
    (h : P s) : P (Machine.run (S.serve t) calls s) := by
  refine Machine.run_invariant (fun s call hcall hP => ?_) hok h
  unfold serve
  cases hout : S.outcome t call s with
  | none => exact hP
  | some r => exact Alone.of_perform (hops call.1 s hcall.1 hP) hcall.2 hout

end System

end Threads
