import KerSorMonitor.Lib.Keyed

/-!
# Threads over a shared state

Programs of several threads that act on one shared state. A program is a tree of atomic
actions; what an action returned, or the exception that it raised, selects the rest of the
program. Between two actions of one thread any number of actions of the other threads may
happen.

Results:
1. `bind_pure`, `attempt_pure`, ...: how programs compose.
2. `Config.run`: the runs of a system, and `Along`: a condition on each event of a run.
-/

namespace Threads

open Keyed

/-! ## Programs -/

/-- A program that performs actions of type `Act`, and returns an `α` or raises an `ε`. -/
inductive Prog (Act : Type → Type 1) (ε α : Type) : Type 1
  | pure (a : α)
  | throw (e : ε)
  | act {β : Type} (a : Act β) (k : Except ε β → Prog Act ε α)

namespace Prog

variable {Act : Type → Type 1} {ε α β : Type}

/-- Run a program and continue with its value. -/
def bind : Prog Act ε α → (α → Prog Act ε β) → Prog Act ε β
  | .pure a, f => f a
  | .throw e, _ => .throw e
  | .act a k, f => .act a fun r => (k r).bind f

instance : Monad (Prog Act ε) where
  pure := .pure
  bind := .bind

/-- The program that performs one action. -/
def call (a : Act α) : Prog Act ε α :=
  .act a fun
    | .ok b => .pure b
    | .error e => .throw e

/-- Run a program and return its value or the exception that it raised. -/
def attempt : Prog Act ε α → Prog Act ε (Except ε α)
  | .pure a => .pure (.ok a)
  | .throw e => .pure (.error e)
  | .act a k => .act a fun r => (k r).attempt

/-- Return a value or raise an exception. -/
def ofExcept : Except ε α → Prog Act ε α
  | .ok a => .pure a
  | .error e => .throw e

/-- `try p except e: h(e)`. -/
def tryCatch (p : Prog Act ε α) (h : ε → Prog Act ε α) : Prog Act ε α :=
  p.attempt.bind fun
    | .ok a => .pure a
    | .error e => h e

/-- `try p finally: fin`. -/
def tryFinally (p : Prog Act ε α) (fin : Prog Act ε Unit) : Prog Act ε α :=
  p.attempt.bind fun r => fin.bind fun _ => ofExcept r

/-- `try p except Exception: pass`. -/
def ignoring (p : Prog Act ε Unit) : Prog Act ε Unit := p.tryCatch fun _ => .pure ()

/-- Every action that the program can perform satisfies `N`. -/
def All (N : ∀ {β : Type}, Act β → Prop) : Prog Act ε α → Prop
  | .pure _ => True
  | .throw _ => True
  | .act a k => N a ∧ ∀ r, (k r).All N

/-- Every value that the program can return satisfies `R`. -/
def Returns (R : α → Prop) : Prog Act ε α → Prop
  | .pure a => R a
  | .throw _ => True
  | .act _ k => ∀ r, (k r).Returns R

/-- The program can return `b`, for some results of its actions. -/
def Reaches (b : α) : Prog Act ε α → Prop
  | .pure a => a = b
  | .throw _ => False
  | .act _ k => ∃ r, (k r).Reaches b

/-- The same program over more actions. -/
def embed {Act' : Type → Type 1} (f : ∀ {β : Type}, Act β → Act' β) :
    Prog Act ε α → Prog Act' ε α
  | .pure a => .pure a
  | .throw e => .throw e
  | .act a k => .act (f a) fun r => (k r).embed f

/-! ### How programs compose -/

@[simp] theorem pure_bind' (a : α) (f : α → Prog Act ε β) : (pure a : Prog Act ε α) >>= f = f a :=
  rfl

theorem ofExcept_ok_bind (a : α) (f : α → Prog Act ε β) :
    (ofExcept (.ok a) : Prog Act ε α) >>= f = f a := rfl

@[simp] theorem throw_bind (e : ε) (f : α → Prog Act ε β) :
    (Prog.throw e : Prog Act ε α) >>= f = .throw e := rfl

theorem returns_any (p : Prog Act ε α) : p.Returns fun _ => True := by
  induction p with
  | pure a => trivial
  | throw e => trivial
  | act a k ih => exact ih

theorem Returns.mono {R R' : α → Prop} {p : Prog Act ε α} (hp : p.Returns R)
    (h : ∀ a, R a → R' a) : p.Returns R' := by
  induction p with
  | pure a => exact h a hp
  | throw e => trivial
  | act a k ih => exact fun r => ih r (hp r)

theorem Returns.bind {R : α → Prop} {R' : β → Prop} {p : Prog Act ε α} {f : α → Prog Act ε β}
    (hp : p.Returns R) (hf : ∀ a, R a → (f a).Returns R') : (p.bind f).Returns R' := by
  induction p with
  | pure a => exact hf a hp
  | throw e => trivial
  | act a k ih => exact fun r => ih r (hp r)

section All

variable {N : ∀ {β : Type}, Act β → Prop}

@[simp] theorem all_pure (a : α) : (Prog.pure a : Prog Act ε α).All N := trivial

@[simp] theorem all_pure' (a : α) : (pure a : Prog Act ε α).All N := trivial

@[simp] theorem all_throw (e : ε) : (Prog.throw e : Prog Act ε α).All N := trivial

@[simp] theorem all_call {a : Act α} : (call a : Prog Act ε α).All N ↔ N a := by
  unfold call
  constructor
  · exact fun h => h.1
  · intro h
    refine ⟨h, fun r => ?_⟩
    cases r <;> trivial

/-- An action can return anything. -/
theorem reaches_call (a : Act α) (b : α) : (call a : Prog Act ε α).Reaches b := ⟨.ok b, rfl⟩

theorem reaches_bind_iff {p : Prog Act ε α} {f : α → Prog Act ε β} {b : β} :
    (p >>= f).Reaches b ↔ ∃ a, p.Reaches a ∧ (f a).Reaches b := by
  show (p.bind f).Reaches b ↔ _
  induction p with
  | pure a =>
    refine ⟨fun h => ⟨a, rfl, h⟩, ?_⟩
    rintro ⟨a', rfl, h⟩
    exact h
  | throw e => exact ⟨fun h => h.elim, fun h => h.choose_spec.1.elim⟩
  | act act k ih =>
    constructor
    · rintro ⟨r, hr⟩
      obtain ⟨a, ha, hb⟩ := (ih r).mp hr
      exact ⟨a, ⟨r, ha⟩, hb⟩
    · rintro ⟨a, ⟨r, ha⟩, hb⟩
      exact ⟨r, (ih r).mpr ⟨a, ha, hb⟩⟩

theorem Reaches.bind {p : Prog Act ε α} {f : α → Prog Act ε β} {a : α} {b : β} (hp : p.Reaches a)
    (hf : (f a).Reaches b) : (p >>= f).Reaches b := reaches_bind_iff.mpr ⟨a, hp, hf⟩

@[simp] theorem all_ofExcept (r : Except ε α) : (ofExcept r : Prog Act ε α).All N := by
  cases r <;> trivial

theorem all_of_forall (p : Prog Act ε α) (h : ∀ {β : Type} (a : Act β), N a) : p.All N := by
  induction p with
  | pure a => trivial
  | throw e => trivial
  | act a k ih => exact ⟨h a, ih⟩

theorem All.mono {M : ∀ {β : Type}, Act β → Prop} {p : Prog Act ε α} (hp : p.All N)
    (h : ∀ {β : Type} (a : Act β), N a → M a) : p.All M := by
  induction p with
  | pure a => trivial
  | throw e => trivial
  | act a k ih => exact ⟨h a hp.1, fun r => ih r (hp.2 r)⟩

theorem all_bind_iff {p : Prog Act ε α} {f : α → Prog Act ε β} :
    (p >>= f).All N ↔ p.All N ∧ ∀ a, p.Reaches a → (f a).All N := by
  show (p.bind f).All N ↔ _
  induction p with
  | pure a =>
    refine ⟨fun h => ⟨trivial, ?_⟩, fun h => h.2 a rfl⟩
    rintro b rfl
    exact h
  | throw e => exact ⟨fun _ => ⟨trivial, fun _ h => h.elim⟩, fun _ => trivial⟩
  | act a k ih =>
    refine ⟨fun h => ⟨⟨h.1, fun r => ((ih r).mp (h.2 r)).1⟩, ?_⟩, fun h => ⟨h.1.1, fun r => ?_⟩⟩
    · rintro b ⟨r, hr⟩
      exact ((ih r).mp (h.2 r)).2 b hr
    · exact (ih r).mpr ⟨h.1.2 r, fun b hb => h.2 b ⟨r, hb⟩⟩

theorem All.bind {p : Prog Act ε α} {f : α → Prog Act ε β} (hp : p.All N)
    (hf : ∀ a, (f a).All N) : (p.bind f).All N := by
  induction p with
  | pure a => exact hf a
  | throw e => trivial
  | act a k ih => exact ⟨hp.1, fun r => ih r (hp.2 r)⟩

/-- What follows a program need only be right for what it can return. -/
theorem All.bind_returns {R : α → Prop} {p : Prog Act ε α} {f : α → Prog Act ε β} (hp : p.All N)
    (hr : p.Returns R) (hf : ∀ a, R a → (f a).All N) : (p.bind f).All N := by
  induction p with
  | pure a => exact hf a hr
  | throw e => trivial
  | act a k ih => exact ⟨hp.1, fun r => ih r (hp.2 r) (hr r)⟩

theorem All.attempt {p : Prog Act ε α} (hp : p.All N) : p.attempt.All N := by
  induction p with
  | pure a => trivial
  | throw e => trivial
  | act a k ih => exact ⟨hp.1, fun r => ih r (hp.2 r)⟩

theorem All.tryCatch {p : Prog Act ε α} {h : ε → Prog Act ε α} (hp : p.All N)
    (hh : ∀ e, (h e).All N) : (p.tryCatch h).All N := by
  refine hp.attempt.bind fun r => ?_
  cases r with
  | ok a => trivial
  | error e => exact hh e

theorem All.tryFinally {p : Prog Act ε α} {fin : Prog Act ε Unit} (hp : p.All N)
    (hfin : fin.All N) : (p.tryFinally fin).All N :=
  hp.attempt.bind fun r => hfin.bind fun _ => all_ofExcept r

theorem All.ignoring {p : Prog Act ε Unit} (hp : p.All N) : p.ignoring.All N :=
  hp.tryCatch fun _ => trivial

end All

end Prog

/-! ## Systems and their runs -/

abbrev ThreadId := Nat

/-- Shared state `σ`, actions with outcomes chosen by an environment `Env`, and the operations
`Op` whose programs the threads run. -/
structure System (Act : Type → Type 1) (ε σ Env Op : Type) where
  exec : ThreadId → {β : Type} → Act β → Env → σ → Except ε β × σ
  program : Op → Prog Act ε Unit
  /-- What the end of a thread does to the shared state. -/
  finish : ThreadId → σ → σ
  /-- What a crash and restart does to the shared state. -/
  restart : σ → σ

/-- A state of a running system. -/
structure Config (Act : Type → Type 1) (ε σ : Type) where
  shared : σ
  next : ThreadId
  threads : Dict ThreadId (Prog Act ε Unit)

/-- What can happen: an operation starts, a thread performs its next action, or the process
crashes and restarts. -/
inductive Event (Env Op : Type)
  | spawn (op : Op)
  | step (t : ThreadId) (env : Env)
  | restart

namespace Config

variable {Act : Type → Type 1} {ε σ Env Op : Type}

/-- No operation is in flight. -/
def Quiescent (c : Config Act ε σ) : Prop := c.threads.rows = []

/-- The state in which nothing runs. -/
def initial (s : σ) : Config Act ε σ := ⟨s, 0, Table.empty⟩

/-- The thread `t` goes on with `p`, or ends. -/
def resume (S : System Act ε σ Env Op) (t : ThreadId) (p : Prog Act ε Unit)
    (c : Config Act ε σ) : Config Act ε σ :=
  match p with
  | .act a k => { c with threads := Dict.set c.threads t (.act a k) }
  | _ => { c with shared := S.finish t c.shared, threads := Dict.pop c.threads t }

/-- What an event does. -/
def apply (S : System Act ε σ Env Op) : Event Env Op → Config Act ε σ → Config Act ε σ
  | .spawn op, c =>
    match S.program op with
    | .act a k =>
      { c with next := c.next + 1, threads := Dict.set c.threads c.next (.act a k) }
    | _ => { c with next := c.next + 1 }
  | .step t env, c =>
    match Dict.get? c.threads t with
    | some (.act a k) =>
      let (r, s) := S.exec t a env c.shared
      ({ c with shared := s }).resume S t (k r)
    | _ => c
  | .restart, c => { c with shared := S.restart c.shared, threads := Table.empty }

/-- A run. -/
def run (S : System Act ε σ Env Op) (events : List (Event Env Op)) (c : Config Act ε σ) :
    Config Act ε σ :=
  events.foldl (fun c ev => apply S ev c) c

/-- Whatever action thread `t` is about to perform satisfies `N`. -/
def Next (t : ThreadId) (N : ∀ {β : Type}, Act β → Prop) (c : Config Act ε σ) : Prop :=
  ∀ (β : Type) (a : Act β) (k : Except ε β → Prog Act ε Unit),
    Dict.get? c.threads t = some (.act a k) → N a

/-- Every event of the run meets `ok` in the state in which it happens. -/
def Along (S : System Act ε σ Env Op) (ok : Config Act ε σ → Event Env Op → Prop) :
    List (Event Env Op) → Config Act ε σ → Prop
  | [], _ => True
  | ev :: events, c => ok c ev ∧ Along S ok events (apply S ev c)

variable {S : System Act ε σ Env Op} {ok : Config Act ε σ → Event Env Op → Prop}

/-- Whether what comes first in a program satisfies `N`. -/
def decidableFirst {N : ∀ {β : Type}, Act β → Prop}
    (hN : ∀ {β : Type} (a : Act β), Decidable (N a)) (o : Option (Prog Act ε Unit)) :
    Decidable (∀ (β : Type) (a : Act β) (k : Except ε β → Prog Act ε Unit),
      o = some (.act a k) → N a) :=
  match o with
  | some (.act a _) =>
    match hN a with
    | isTrue h => isTrue fun _ _ _ heq => by cases heq; exact h
    | isFalse h => isFalse fun hall => h (hall _ a _ rfl)
  | some (.pure _) => isTrue fun _ _ _ heq => by cases heq
  | some (.throw _) => isTrue fun _ _ _ heq => by cases heq
  | none => isTrue fun _ _ _ heq => by cases heq

instance decidableNext {N : ∀ {β : Type}, Act β → Prop}
    [hN : ∀ {β : Type} (a : Act β), Decidable (N a)] (t : ThreadId) (c : Config Act ε σ) :
    Decidable (c.Next t N) :=
  decidableFirst hN (Dict.get? c.threads t)

instance decidableAlong [hok : ∀ c ev, Decidable (ok c ev)] :
    ∀ (events : List (Event Env Op)) (c : Config Act ε σ), Decidable (Along S ok events c)
  | [], _ => isTrue trivial
  | ev :: events, c =>
    match hok c ev, decidableAlong events (apply S ev c) with
    | isTrue h, isTrue h' => isTrue ⟨h, h'⟩
    | isFalse h, _ => isFalse fun hall => h hall.1
    | _, isFalse h => isFalse fun hall => h hall.2

theorem apply_spawn {op : Op} {β : Type} {a : Act β} {k : Except ε β → Prog Act ε Unit}
    (h : S.program op = .act a k) (c : Config Act ε σ) :
    apply S (.spawn op : Event Env Op) c =
      { c with next := c.next + 1, threads := Dict.set c.threads c.next (.act a k) } := by
  simp only [apply, h]

/-- An operation that ends without an action leaves no trace. -/
theorem apply_spawn_done {op : Op}
    (h : ∀ {β : Type} (a : Act β) (k : Except ε β → Prog Act ε Unit), S.program op ≠ .act a k)
    (c : Config Act ε σ) : apply S (.spawn op : Event Env Op) c = { c with next := c.next + 1 } := by
  cases hp : S.program op with
  | act a k => exact absurd hp (h a k)
  | pure a => simp only [apply, hp]
  | throw e => simp only [apply, hp]

theorem apply_step {t : ThreadId} {env : Env} {β : Type} {a : Act β}
    {k : Except ε β → Prog Act ε Unit} {c : Config Act ε σ}
    (h : Dict.get? c.threads t = some (.act a k)) :
    apply S (.step t env : Event Env Op) c =
      ({ c with shared := (S.exec t a env c.shared).2 } : Config Act ε σ).resume S t
        (k (S.exec t a env c.shared).1) := by
  simp only [apply, h]

/-- A thread that is not in flight does nothing. -/
theorem apply_step_none {t : ThreadId} {env : Env} {c : Config Act ε σ}
    (h : ∀ {β : Type} (a : Act β) (k : Except ε β → Prog Act ε Unit),
      Dict.get? c.threads t ≠ some (.act a k)) :
    apply S (.step t env : Event Env Op) c = c := by
  cases hget : Dict.get? c.threads t with
  | none => simp only [apply, hget]
  | some p =>
    cases p with
    | act a k => exact absurd hget (h a k)
    | pure a => simp only [apply, hget]
    | throw e => simp only [apply, hget]

@[simp] theorem run_nil (c : Config Act ε σ) : run S [] c = c := rfl

@[simp] theorem run_cons (ev : Event Env Op) (events : List (Event Env Op))
    (c : Config Act ε σ) : run S (ev :: events) c = run S events (apply S ev c) := rfl

theorem run_append (events events' : List (Event Env Op)) (c : Config Act ε σ) :
    run S (events ++ events') c = run S events' (run S events c) := List.foldl_append

theorem along_append {events events' : List (Event Env Op)} {c : Config Act ε σ} :
    Along S ok (events ++ events') c ↔ Along S ok events c ∧ Along S ok events' (run S events c) := by
  induction events generalizing c with
  | nil => simp [Along]
  | cons ev events ih => simp only [List.cons_append, Along, ih, run_cons, and_assoc]

/-- The configuration with a part of its shared state. -/
def map {σ' : Type} (f : σ → σ') (c : Config Act ε σ) : Config Act ε σ' :=
  ⟨f c.shared, c.next, c.threads⟩

/-- What a system keeps beside another one has no part in its runs. -/
theorem run_map {σ' : Type} {S' : System Act ε σ' Env Op} {f : σ → σ'}
    (hexec : ∀ (t : ThreadId) {β : Type} (a : Act β) (env : Env) (s : σ),
      S'.exec t a env (f s) = ((S.exec t a env s).1, f (S.exec t a env s).2))
    (hprogram : S'.program = S.program) (hfinish : ∀ t s, S'.finish t (f s) = f (S.finish t s))
    (hrestart : ∀ s, S'.restart (f s) = f (S.restart s)) (events : List (Event Env Op))
    (c : Config Act ε σ) : (run S events c).map f = run S' events (c.map f) := by
  have hresume (t : ThreadId) (p : Prog Act ε Unit) (c : Config Act ε σ) :
      (c.resume S t p).map f = (c.map f).resume S' t p := by
    cases p with
    | act a k => rfl
    | pure a | throw e => simp [resume, map, hfinish]
  have happly (ev : Event Env Op) (c : Config Act ε σ) :
      (apply S ev c).map f = apply S' ev (c.map f) := by
    cases ev with
    | spawn op =>
      simp only [apply, hprogram]
      cases S.program op <;> rfl
    | step t env =>
      simp only [apply, map]
      cases Dict.get? c.threads t with
      | none => rfl
      | some p =>
        cases p with
        | act a k =>
          simp only [hexec]
          exact hresume t _ _
        | pure a | throw e => rfl
    | restart => simp [apply, map, hrestart]
  induction events generalizing c with
  | nil => rfl
  | cons ev events ih =>
    rw [run_cons, run_cons, ih, happly]

theorem along_mono {ok' : Config Act ε σ → Event Env Op → Prop}
    (h : ∀ c ev, ok c ev → ok' c ev) {events : List (Event Env Op)} {c : Config Act ε σ}
    (hok : Along S ok events c) : Along S ok' events c := by
  induction events generalizing c with
  | nil => trivial
  | cons ev events ih => exact ⟨h c ev hok.1, ih hok.2⟩

theorem along_of_forall (h : ∀ c ev, ok c ev) :
    ∀ (events : List (Event Env Op)) (c : Config Act ε σ), Along S ok events c
  | [], _ => trivial
  | ev :: events, c => ⟨h c ev, along_of_forall h events (apply S ev c)⟩

/-- What every permitted event preserves holds after every permitted run. -/
theorem run_invariant {P : Config Act ε σ → Prop}
    (hstep : ∀ c ev, ok c ev → P c → P (apply S ev c)) {events : List (Event Env Op)}
    {c : Config Act ε σ} (hok : Along S ok events c) (h : P c) : P (run S events c) := by
  induction events generalizing c with
  | nil => exact h
  | cons ev events ih => exact ih hok.2 (hstep c ev hok.1 h)

/-- The shared state after an event: a start changes nothing, and a step that performs an action may
end its thread. -/
theorem shared_apply (c : Config Act ε σ) (ev : Event Env Op) :
    (apply S ev c).shared = c.shared ∨ (apply S ev c).shared = S.restart c.shared ∨
      ∃ (t : ThreadId) (env : Env) (β : Type) (a : Act β) (k : Except ε β → Prog Act ε Unit),
        ev = .step t env ∧ Dict.get? c.threads t = some (.act a k) ∧
        ((apply S ev c).shared = (S.exec t a env c.shared).2 ∨
          (apply S ev c).shared = S.finish t (S.exec t a env c.shared).2) := by
  cases ev with
  | spawn op =>
    left
    cases hp : S.program op with
    | act a k => rw [apply_spawn hp]
    | pure a => rw [apply_spawn_done fun _ _ => by rw [hp]; simp]
    | throw e => rw [apply_spawn_done fun _ _ => by rw [hp]; simp]
  | step t env =>
    by_cases hact : ∃ (β : Type) (a : Act β) (k : Except ε β → Prog Act ε Unit),
        Dict.get? c.threads t = some (.act a k)
    · obtain ⟨β, a, k, hget⟩ := hact
      refine Or.inr (Or.inr ⟨t, env, β, a, k, rfl, hget, ?_⟩)
      rw [apply_step hget]
      cases k (S.exec t a env c.shared).1 with
      | act a k => exact Or.inl rfl
      | pure a => exact Or.inr rfl
      | throw e => exact Or.inr rfl
    · rw [apply_step_none fun a k hget => hact ⟨_, a, k, hget⟩]
      exact Or.inl rfl
  | restart => exact Or.inr (Or.inl rfl)

/-- Each action meets `allow` in the state in which it is performed. -/
def Allows (allow : ∀ {β : Type}, Act β → σ → Prop) (c : Config Act ε σ) : Event Env Op → Prop
  | .step t _ => c.Next t fun a => allow a c.shared
  | _ => True

instance {allow : ∀ {β : Type}, Act β → σ → Prop}
    [hallow : ∀ {β : Type} (a : Act β) (s : σ), Decidable (allow a s)] :
    ∀ (c : Config Act ε σ) (ev : Event Env Op), Decidable (Allows allow c ev)
  | c, .step t _ => inferInstanceAs (Decidable (c.Next t fun a => allow a c.shared))
  | _, .spawn _ | _, .restart => inferInstanceAs (Decidable True)

/-- What every allowed action, the end of a thread and a restart keep of the shared state holds
after every run of allowed actions. -/
theorem run_shared_invariant {P : σ → Prop} {allow : ∀ {β : Type}, Act β → σ → Prop}
    (hexec : ∀ {β : Type} (a : Act β) t env s, allow a s → P s → P (S.exec t a env s).2)
    (hfinish : ∀ t s, P s → P (S.finish t s)) (hrestart : ∀ s, P s → P (S.restart s))
    {events : List (Event Env Op)} {c : Config Act ε σ} (hok : Along S (Allows allow) events c)
    (h : P c.shared) : P (run S events c).shared := by
  refine run_invariant (P := fun c => P c.shared) (fun c ev hok h => ?_) hok h
  rcases shared_apply (S := S) c ev with hsame | hstart | ⟨t, env, β, a, k, rfl, hget, hstep⟩
  · exact hsame ▸ h
  · exact hstart ▸ hrestart _ h
  · have hs := hexec a t env c.shared (hok β a k hget) h
    rcases hstep with hstep | hend
    · exact hstep ▸ hs
    · exact hend ▸ hfinish t _ hs

end Config

end Threads
