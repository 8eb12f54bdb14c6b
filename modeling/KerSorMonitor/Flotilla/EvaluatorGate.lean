import KerSorMonitor.Flotilla.TypedEvents
import KerSorMonitor.Flotilla.Retirements

/-!
# The evaluator gate (`actuator.retire`, `_evaluation_event`)

A task with an evaluator is `DONE` only if its evaluator passed. The evaluator runs outside of any
transaction, between the read of the row and the commit of `finish_worker`, and other threads run
meanwhile. A `Ledger` keeps, beside the process, which thread retires which task, what the thread has
found out, and how often each task came into a terminal state.

Results:
1. `View.inv_step`: every step keeps the invariant of a task.
2. `retire_keeps`: a retirement makes only such steps.
3. `evaluator_gate`: the gate holds at every step of every run without a deletion, and in every
   state that such a run reaches.
-/

namespace Flotilla

open Keyed Threads
open Prog (call)

/-- `payload["passed"]`. -/
def Event.passed (e : Event) : Bool :=
  match e.payload.get? "passed" with
  | some (.bool b) => b
  | _ => false

/-- What the evaluation events of a task say, oldest first. -/
def Db.verdicts (tid : TaskId) (db : Db) : List Bool := (db.eventsOf "evaluation" tid).map Event.passed

namespace Gate

/-! ## The ledger -/

/-- What a thread has found out since it last took a task. -/
structure Probe where
  /-- The directory that it looked up last, if that exists. -/
  found : Option String := none
  /-- The evaluator and the task of its last evaluation, if that passed in this directory. -/
  passed : Option (String × TaskId) := none

/-- What an action adds to the findings of its thread. -/
def Probe.note (p : Probe) : {β : Type} → Act β → Except PyErr β → Probe
  | _, .beginRetire _, .ok (some _) => {}
  | _, .isDir path, .ok flag => { p with found := if flag then some path else none }
  | _, .evaluate name task workspace, .ok result =>
    { p with
      passed := if result.passed && p.found = some workspace then some (name, task.id) else none }
  | _, .evaluate _ _ _, .error _ => { p with passed := none }
  | _, _, _ => p

/-- What has happened to the tasks. -/
structure Ledger where
  /-- The thread that holds `_RETIRING` for a task. -/
  owner : TaskId → Option ThreadId
  probe : ThreadId → Probe
  /-- How often the row of a task came into a terminal state. -/
  turns : TaskId → Nat

/-- An action of thread `t`, which returned `r` and took `db` to `db'`. -/
def Ledger.note (y : Ledger) (t : ThreadId) {β : Type} (a : Act β) (r : Except PyErr β)
    (db db' : Db) : Ledger where
  owner tid := RetireTally.ownerAfter tid t (y.owner tid) a r
  probe := setAt y.probe t ((y.probe t).note a r)
  turns tid := y.turns tid + (db.turned tid db').toNat

/-- The process, and its ledger. -/
structure State where
  world : World
  ledger : Ledger

/-- Before anything has happened. -/
def State.boot (db : Db) : State := ⟨.boot db, ⟨fun _ => none, fun _ => {}, fun _ => 0⟩⟩

/-- The control plane with the ledger. -/
def system (settings : Settings) : System Act PyErr State Env Op where
  exec t {_} a env s :=
    let (r, w) := World.exec settings env a s.world
    (r, ⟨w, s.ledger.note t a r s.world.db w.db⟩)
  program := Op.program settings
  finish _ s := s
  restart s := ⟨.boot s.world.db, { s.ledger with owner := fun _ => none }⟩

/-! ## One task -/

/-- What the gate is about. -/
structure View where
  row : Option Task
  retiring : Prop
  owner : Option ThreadId
  probe : ThreadId → Probe
  verdicts : List Bool
  turns : Nat

/-- The part of the state that concerns a task. -/
def State.view (s : State) (tid : TaskId) : View where
  row := s.world.db.task? tid
  retiring := tid ∈ s.world.retiring
  owner := s.ledger.owner tid
  probe := s.ledger.probe
  verdicts := s.world.db.verdicts tid
  turns := s.ledger.turns tid

/-- The row is in a terminal state in which it was not before. -/
def turned (row row' : Option Task) : Bool :=
  row'.map Task.state ≠ row.map Task.state && (row'.map Task.state).any TaskState.isTerminal

/-- What a transaction without a verdict may do to a row. -/
inductive Moves : Option Task → Option Task → Prop
  | keep (row : Option Task) : Moves row row
  | create {row : Task} : row.state ≠ .done → Moves none (some row)
  | step {row row' : Task} : RowStep row row' →
      (row'.state = .done → row.state = .done ∨ nonEmpty? row.evaluator = none) →
      Moves (some row) (some row')

namespace View

/-- A verdict is owed: the row is in no terminal state, or it came into one without a verdict. -/
def Open (v : View) : Prop :=
  (∃ row, v.row = some row ∧ row.state.isTerminal = false) ∨ v.verdicts.length < v.turns

/-- The verdict of thread `t` on a task, and the state that it leads to. -/
def Justified (t : ThreadId) (v : View) (row row' : Task) : Bool → Prop
  | true => row'.state = .done ∧ ∀ name, nonEmpty? row.evaluator = some name →
      nonEmpty? row.targetHost = none ∧ (v.probe t).passed = some (name, row.id)
  | false => row'.state = .failed

/-- Between two actions. -/
structure Inv (v : View) : Prop where
  owned : ∀ t, v.owner = some t → v.retiring
  counted : v.verdicts.length ≤ v.turns
  gated : ∀ row, v.row = some row → row.state = .done → nonEmpty? row.evaluator ≠ none →
    true ∈ v.verdicts
  refused : false ∈ v.verdicts → ∃ row, v.row = some row ∧ row.state = .failed

/-- What an action of thread `t` does to a task that it does not judge. -/
inductive Aside (t : ThreadId) : View → View → Prop
  | probe {v : View} {probe' : ThreadId → Probe} : (∀ t', t' ≠ t → probe' t' = v.probe t') →
      Aside t v { v with probe := probe' }
  | write {v : View} {row' : Option Task} : Moves v.row row' →
      Aside t v { v with row := row', turns := v.turns + (turned v.row row').toNat }

/-- What an action of thread `t` does to a task. -/
inductive Step (t : ThreadId) : View → View → Prop
  | aside {v v' : View} : Aside t v v' → Step t v v'
  | judge {v : View} {row row' : Task} {passed : Bool} : v.owner = some t → v.row = some row →
      RowStep row row' → v.Open → v.Justified t row row' passed →
      Step t v
        { v with
          row := some row'
          turns := v.turns + (turned v.row (some row')).toNat
          verdicts := v.verdicts ++ [passed] }
  | enter {v : View} {probe' : ThreadId → Probe} : ¬ v.retiring →
      (∀ t', t' ≠ t → probe' t' = v.probe t') →
      Step t v { v with retiring := True, owner := some t, probe := probe' }
  | leave {v : View} : v.owner = some t → Step t v { v with retiring := False, owner := none }

variable {t t' : ThreadId} {v v' : View}

theorem Aside.refl (v : View) : Aside t v v := .probe fun _ _ => rfl

/-! ### The invariant -/

theorem turned_of_final {row row' : Task} (hopen : row.state.isTerminal = false)
    (hfinal : row'.state.isTerminal = true) : turned (some row) (some row') = true := by
  have hne : row'.state ≠ row.state := fun heq => by rw [heq, hopen] at hfinal; cases hfinal
  simp [turned, hne, hfinal]

/-- A verdict leads to a terminal state. -/
theorem Justified.final {row row' : Task} {passed : Bool} (h : v.Justified t row row' passed) :
    row'.state.isTerminal = true := by
  cases passed with
  | true => rw [h.1]; rfl
  | false =>
    have hfailed : row'.state = .failed := h
    rw [hfailed]
    rfl

/-- A `FAILED` task stays `FAILED`. -/
theorem failed_of_rowStep {row row' : Task} (h : RowStep row row') (hfailed : row.state = .failed) :
    row'.state = .failed := by
  rcases h.state with heq | hmove
  · rw [← heq, hfailed]
  · exact absurd hmove (not_allowed_from_absorbing (Or.inr (Or.inl hfailed)))

theorem evaluator_of_rowStep {row row' : Task} (h : RowStep row row') :
    row'.evaluator = row.evaluator := by rw [h.fixed]

theorem Inv.aside (hinv : v.Inv) (h : Aside t v v') : v'.Inv := by
  cases h with
  | probe hothers => exact ⟨hinv.owned, hinv.counted, hinv.gated, hinv.refused⟩
  | @write after hmoves =>
    refine ⟨hinv.owned, hinv.counted.trans (Nat.le_add_right _ _), ?_, fun hfalse => ?_⟩
    · rintro row hrow hdone hevaluator
      generalize hbefore : v.row = before at hmoves
      obtain rfl : after = some row := hrow
      cases hmoves with
      | keep => exact hinv.gated row hbefore hdone hevaluator
      | create hnot => exact absurd hdone hnot
      | step hstep hgate =>
        rw [evaluator_of_rowStep hstep] at hevaluator
        exact hinv.gated _ hbefore ((hgate hdone).resolve_right hevaluator) hevaluator
    · obtain ⟨row, hrow, hfailed⟩ := hinv.refused hfalse
      rw [hrow] at hmoves
      cases hmoves with
      | keep => exact ⟨row, rfl, hfailed⟩
      | step hstep => exact ⟨_, rfl, failed_of_rowStep hstep hfailed⟩

/-- Every step keeps the invariant. -/
theorem inv_step (hinv : v.Inv) (hstep : Step t v v') : v'.Inv := by
  cases hstep with
  | aside h => exact hinv.aside h
  | @judge before after passed howns hrow hstep hopen hverdict =>
    refine ⟨hinv.owned, ?_, ?_, fun hfalse => ⟨after, rfl, ?_⟩⟩
    · dsimp only
      rw [List.length_append, List.length_singleton]
      rcases hopen with ⟨row, hrow', hlive⟩ | hlt
      · obtain rfl := Option.some.inj (hrow.symm.trans hrow')
        rw [hrow, turned_of_final hlive hverdict.final]
        exact Nat.add_le_add_right hinv.counted 1
      · omega
    · rintro row ⟨⟩ hdone -
      cases passed with
      | true => exact List.mem_append_right _ List.mem_cons_self
      | false =>
        have hfailed : after.state = .failed := hverdict
        rw [hfailed] at hdone
        cases hdone
    · rcases List.mem_append.mp hfalse with hbefore | hlast
      · obtain ⟨row, hrow', hfailed⟩ := hinv.refused hbefore
        obtain rfl := Option.some.inj (hrow.symm.trans hrow')
        exact failed_of_rowStep hstep hfailed
      · obtain rfl : false = passed := List.mem_singleton.mp hlast
        exact hverdict
  | enter hfree hothers => exact ⟨fun _ _ => trivial, hinv.counted, hinv.gated, hinv.refused⟩
  | leave howns => exact ⟨fun _ h => (by cases h), hinv.counted, hinv.gated, hinv.refused⟩

/-- The steps of the threads on one task. The end of a thread changes nothing. -/
def protocol : Protocol View where
  inv := Inv
  step := Step
  leave _ v v' := v' = v
  clean _ _ := True
  inv_step := inv_step
  clean_step := fun _ _ _ _ => trivial

/-! ### What a retirement knows -/

/-- Thread `t` holds `_RETIRING` and has read the row `task`, which was in no terminal state. -/
structure Knows (t : ThreadId) (task : Task) (v : View) : Prop where
  owns : v.owner = some t
  row : ∃ row, v.row = some row ∧ row.id = task.id ∧ row.evaluator = task.evaluator ∧
    row.targetHost = task.targetHost
  due : v.Open

variable {task : Task}

theorem Open.aside (hinv : v.Inv) (h : v.Open) (haside : Aside t v v') : v'.Open := by
  cases haside with
  | probe hothers => exact h
  | write hmoves =>
    rcases h with ⟨row, hrow, hlive⟩ | hlt
    · generalize hbefore : v.row = before at hmoves
      obtain rfl : before = some row := hbefore.symm.trans hrow
      cases hmoves with
      | keep => exact Or.inl ⟨row, rfl, hlive⟩
      | @step _ row' hstep hgate =>
        cases hfinal : row'.state.isTerminal with
        | false => exact Or.inl ⟨row', rfl, hfinal⟩
        | true =>
          -- the task has come into a terminal state without a verdict
          refine Or.inr ?_
          rw [turned_of_final hlive hfinal]
          exact Nat.lt_succ_of_le hinv.counted
    · exact Or.inr (Nat.lt_of_lt_of_le hlt (Nat.le_add_right _ _))

theorem Knows.aside (hinv : v.Inv) (h : v.Knows t task) (haside : Aside t' v v') :
    v'.Knows t task := by
  refine ⟨?_, ?_, h.due.aside hinv haside⟩
  · cases haside <;> exact h.owns
  · obtain ⟨row, hrow, hid, hevaluator, hhost⟩ := h.row
    cases haside with
    | probe => exact ⟨row, hrow, hid, hevaluator, hhost⟩
    | write hmoves =>
      generalize hbefore : v.row = before at hmoves
      obtain rfl : before = some row := hbefore.symm.trans hrow
      cases hmoves with
      | keep => exact ⟨row, rfl, hid, hevaluator, hhost⟩
      | @step _ row' hstep hgate =>
        have hfixed := hstep.fixed
        exact ⟨row', rfl, by rw [hfixed]; exact hid, by rw [hfixed]; exact hevaluator,
          by rw [hfixed]; exact hhost⟩

/-- While `t` holds `_RETIRING`, the others make no other steps. -/
theorem aside_of_other (howns : v.owner = some t) (hother : protocol.Other t v v') :
    v' = v ∨ ∃ t', t' ≠ t ∧ Aside t' v v' := by
  obtain ⟨hinv, t', hne, hstep | hleave⟩ := hother
  · have hnot : v.owner ≠ some t' := fun h => hne (Option.some.inj (h.symm.trans howns))
    cases hstep with
    | aside h => exact Or.inr ⟨t', hne, h⟩
    | judge h => exact absurd h hnot
    | enter hfree => exact absurd (hinv.owned t howns) hfree
    | leave h => exact absurd h hnot
  · exact Or.inl hleave

theorem owns_other (howns : v.owner = some t) (hother : protocol.Other t v v') :
    v'.owner = some t := by
  rcases aside_of_other howns hother with rfl | ⟨t', -, h⟩
  · exact howns
  · cases h <;> exact howns

theorem Knows.other (h : v.Knows t task) (hother : protocol.Other t v v') : v'.Knows t task := by
  rcases aside_of_other h.owns hother with rfl | ⟨t', -, haside⟩
  · exact h
  · exact h.aside hother.1 haside

/-- The others leave the findings of a thread alone. -/
theorem probe_other (hother : protocol.Other t v v') : v'.probe t = v.probe t := by
  obtain ⟨hinv, t', hne, hstep | hleave⟩ := hother
  · cases hstep with
    | aside h =>
      cases h with
      | probe hothers => exact hothers t hne.symm
      | write => rfl
    | judge | leave => rfl
    | enter hfree hothers => exact hothers t hne.symm
  · rw [hleave]

end View

/-- Every action makes a step on every task. -/
def contract (settings : Settings) : Contract (system settings) :=
  View.protocol.contract (system settings) State.view (fun _ _ _ _ _ => True) fun _ _ _ _ => True

/-! ## What the actions do -/

/-- The transaction records no verdict, and makes no task `DONE`. -/
def Plain {α : Type} (q : Transaction α) : Prop :=
  q.KeepsEvents "evaluation" ∧ ∀ tid, ¬ q.Writes tid .done

/-- The actions of all programs but those of a retirement that takes, judges and leaves a task. -/
def PlainAct : {β : Type} → Act β → Prop
  | _, .store q => Plain q
  | _, .beginRetire _ => False
  | _, .endRetire _ => False
  | _, _ => True

/-- `finish_worker` is asked for the state that the verdict in its event says. -/
def Matches (task : Task) : {β : Type} → Act β → Prop
  | _, .store (.finishWorker _ _ state event) => ∃ e, event = some e ∧
      e.isOf "evaluation" task.id = true ∧ state = if e.passed then "DONE" else "FAILED"
  | _, _ => True

namespace GateLemmas

open Store StoreLemmas TransactionLemmas Effects RetireLemmas QuietLemmas TypedEvents

variable {settings : Settings} {t : ThreadId} {env : Env} {β : Type} {s s' : State} {tid : TaskId}
  {task : Task}

theorem setAt_self {α γ : Type} [DecidableEq α] (f : α → γ) (a : α) : setAt f a (f a) = f := by
  funext x
  unfold setAt
  split
  · next heq => rw [heq]
  · rfl

theorem exec_cases {a : Act β} {r : Except PyErr β} (h : (system settings).exec t a env s = (r, s')) :
    ∃ w', World.exec settings env a s.world = (r, w') ∧
      s' = ⟨w', s.ledger.note t a r s.world.db w'.db⟩ := by
  have hr : (World.exec settings env a s.world).1 = r := congrArg Prod.fst h
  have hs : (⟨(World.exec settings env a s.world).2, s.ledger.note t a
      (World.exec settings env a s.world).1 s.world.db (World.exec settings env a s.world).2.db⟩ :
      State) = s' := congrArg Prod.snd h
  exact ⟨_, Prod.ext hr rfl, by rw [← hs, hr]⟩

theorem keepsRetiring_of_plain {a : Act β} (ha : PlainAct a) : KeepsRetiring a := by
  cases a with
  | beginRetire | endRetire => exact ha.elim
  | _ => trivial

theorem ownerAfter_of_keepsRetiring {a : Act β} (ha : KeepsRetiring a) (o : Option ThreadId)
    (r : Except PyErr β) : RetireTally.ownerAfter tid t o a r = o := by
  cases a with
  | beginRetire | endRetire => exact ha.elim
  | _ => rfl

/-- What an action that neither begins nor ends a retirement changes of a task. -/
theorem view_of_keepsRetiring {a : Act β} (ha : KeepsRetiring a) {r : Except PyErr β} {w' : World}
    (hx : World.exec settings env a s.world = (r, w')) (tid : TaskId) :
    (⟨w', s.ledger.note t a r s.world.db w'.db⟩ : State).view tid =
      { s.view tid with
        row := w'.db.task? tid
        probe := setAt s.ledger.probe t ((s.ledger.probe t).note a r)
        verdicts := w'.db.verdicts tid
        turns := s.ledger.turns tid + (turned (s.world.db.task? tid) (w'.db.task? tid)).toNat } := by
  have hretiring : w'.retiring = s.world.retiring := by
    have hkept : (World.exec settings env a s.world).2.retiring = s.world.retiring :=
      exec_retiring ha s.world
    rwa [hx] at hkept
  simp only [State.view, Ledger.note, hretiring, ownerAfter_of_keepsRetiring ha, View.mk.injEq,
    true_and]
  rfl

theorem turned_self (row : Option Task) : turned row row = false := by simp [turned]

/-- A plain transaction moves a row without a verdict. -/
theorem moves_of_plain {q : Transaction β} (hq : Plain q) {clock : Clock} {db db' : Db}
    {r : Except PyErr β} (h : q.exec settings clock db = (r, db')) (tid : TaskId) :
    Moves (db.task? tid) (db'.task? tid) := by
  have hdone : ∀ row', db'.task? tid = some row' → row'.state = .done →
      db.state? tid = some .done := by
    intro row' hrow' hdone
    have hstate : db'.state? tid = some .done := by
      unfold Db.state?
      rw [hrow', Option.map_some, hdone]
    exact (exec_writes h hstate).resolve_right (hq.2 tid)
  have hchange := exec_row h tid
  unfold Db.state? at hdone
  generalize db.task? tid = row at hchange hdone
  generalize db'.task? tid = row' at hchange hdone
  cases hchange with
  | keep => exact .keep _
  | step hstep =>
    exact .step hstep fun hd => Or.inl (Option.some.inj (hdone _ rfl hd))
  | create hcreates => exact .create fun hd => (by cases hdone _ rfl hd)
  | delete hdeletes =>
    cases q with
    | deleteTask => exact hq.1.elim
    | _ => exact hdeletes.elim

/-- A plain action passes no judgement. -/
theorem plain_aside {a : Act β} (ha : PlainAct a) {r : Except PyErr β}
    (h : (system settings).exec t a env s = (r, s')) (tid : TaskId) :
    View.Aside t (s.view tid) (s'.view tid) := by
  obtain ⟨w', hx, rfl⟩ := exec_cases h
  rw [view_of_keepsRetiring (keepsRetiring_of_plain ha) hx]
  by_cases hstore : ∃ q : Transaction β, a = .store q
  · obtain ⟨q, rfl⟩ := hstore
    have hprobe : setAt s.ledger.probe t ((s.ledger.probe t).note (.store q) r) = s.ledger.probe :=
      setAt_self _ _
    rw [hprobe]
    cases hraises : env.raises with
    | some e =>
      rw [exec_store_raised q hraises] at hx
      cases hx
      exact .write (.keep _)
    | none =>
      rw [exec_store_done q hraises] at hx
      cases hx
      have hverdicts : (q.exec settings env.clock s.world.db).2.verdicts tid =
          s.world.db.verdicts tid :=
        congrArg (List.map _) (eventsOf_of_keepsEvents ha.1 (Prod.ext rfl rfl) tid)
      dsimp only
      rw [hverdicts]
      exact .write (moves_of_plain ha (Prod.ext rfl rfl) tid)
  · have hdb : w'.db = s.world.db := by
      have hkept : (World.exec settings env a s.world).2.db = s.world.db :=
        exec_db (fun q hq => hstore ⟨q, hq⟩) s.world
      rwa [hx] at hkept
    rw [hdb, turned_self]
    exact .probe fun t' hne => setAt_of_ne _ _ hne

/-! ### The judgement -/

/-- What a retirement of a live task commits: the state and the event. -/
inductive Judged (task : Task) (p : Probe) : String × Option Event → Prop
  | free : nonEmpty? task.evaluator = none → Judged task p ("DONE", none)
  | passed {name : String} {e : Event} : nonEmpty? task.evaluator = some name →
      nonEmpty? task.targetHost = none → p.passed = some (name, task.id) →
      e.isOf "evaluation" task.id = true → e.passed = true → Judged task p ("DONE", some e)
  | failed {e : Event} : e.isOf "evaluation" task.id = true → e.passed = false →
      Judged task p ("FAILED", some e)
  | other {state : String} : state ≠ "DONE" → Judged task p (state, none)

theorem Judged.event {p : Probe} {state : String} {event : Option Event}
    (h : Judged task p (state, event)) : ∀ e ∈ event, e.isOf "evaluation" task.id = true := by
  cases h with
  | free | other => exact fun e he => (by cases he)
  | passed _ _ _ hof | failed hof =>
    intro e he
    rwa [← Option.mem_some.mp he]

theorem isOf_of_ne {e : Event} (h : e.isOf "evaluation" task.id = true) (hne : tid ≠ task.id) :
    e.isOf "evaluation" tid = false := by
  have hid : e.taskId = task.id := by
    unfold Event.isOf at h
    exact of_decide_eq_true (Bool.and_eq_true_iff.mp h).1
  exact isOf_eq_false fun hboth => hne (hboth.1.symm.trans hid)

theorem name_of_transition {current st : TaskState} {target : String}
    (h : transition current target = .ok st) : st.name = target :=
  TaskState.name_of_ofName? (transition_eq_ok h).1

/-- What `finish_worker` does to the task that it finishes. -/
theorem judged_step {row : Task} {st : TaskState} {state now : String} {event : Option Event}
    (hknows : (s.view task.id).Knows t task) (hjudged : Judged task (s.ledger.probe t) (state, event))
    (hrow : s.world.db.task? task.id = some row) (htr : transition row.state state = .ok st) :
    View.Step t (s.view task.id)
      { s.view task.id with
        row := some { row with state := st, updatedAt := now }
        turns := s.ledger.turns task.id +
          (turned (some row) (some { row with state := st, updatedAt := now })).toNat
        verdicts := s.world.db.verdicts task.id ++ event.toList.map Event.passed } := by
  obtain ⟨row', hrow', hid, hevaluator, hhost⟩ := hknows.row
  obtain rfl : row' = row := Option.some.inj (hrow'.symm.trans hrow)
  have hstep : RowStep row' { row' with state := st, updatedAt := now } :=
    rowStep_setState (transition_eq_ok htr).2
  have hname := name_of_transition htr
  rw [← hrow]
  cases hjudged with
  | free hfree =>
    rw [Option.toList_none, List.map_nil, List.append_nil]
    refine .aside (.write ?_)
    rw [hrow']
    exact .step hstep fun _ => Or.inr (hevaluator ▸ hfree)
  | other hstate =>
    rw [Option.toList_none, List.map_nil, List.append_nil]
    refine .aside (.write ?_)
    rw [hrow']
    refine .step hstep fun hdone => absurd ?_ hstate
    have hst : st = .done := hdone
    rw [← hname, hst]
    rfl
  | passed hsome hlocal hpassed hof hflag =>
    have hst : st = .done := by
      have hof : some TaskState.done = some st := (transition_eq_ok htr).1
      exact (Option.some.inj hof).symm
    rw [Option.toList_some, List.map_singleton, hflag]
    refine .judge hknows.owns hrow' hstep hknows.due ⟨hst, fun name hname => ?_⟩
    rw [hevaluator, hsome] at hname
    rw [hhost, hid]
    exact ⟨hlocal, hpassed.trans (by rw [Option.some.inj hname])⟩
  | failed hof hflag =>
    have hst : st = .failed := by
      have hof : some TaskState.failed = some st := (transition_eq_ok htr).1
      exact (Option.some.inj hof).symm
    rw [Option.toList_some, List.map_singleton, hflag]
    exact .judge hknows.owns hrow' hstep hknows.due hst

/-- `finish_worker` makes a step on every task, and leaves `_RETIRING` alone. -/
theorem finishWorker_step {wid : Option WorkerId} {state : String} {event : Option Event}
    {r : Except PyErr Bool} (hknows : (s.view task.id).Knows t task)
    (hjudged : Judged task (s.ledger.probe t) (state, event))
    (h : (system settings).exec t (.store (.finishWorker task.id wid state event)) env s = (r, s')) :
    (∀ tid, View.Step t (s.view tid) (s'.view tid)) ∧ (s'.view task.id).owner = some t := by
  obtain ⟨w', hx, rfl⟩ := exec_cases h
  have hview := view_of_keepsRetiring (t := t) (by exact trivial) hx
  have hprobe : setAt s.ledger.probe t
      ((s.ledger.probe t).note (.store (.finishWorker task.id wid state event)) r) = s.ledger.probe :=
    setAt_self _ _
  refine ⟨fun tid => ?_, by rw [hview]; exact hknows.owns⟩
  rw [hview, hprobe]
  have hkept : View.Step t (s.view tid)
      { s.view tid with
        row := s.world.db.task? tid
        turns := s.ledger.turns tid +
          (turned (s.world.db.task? tid) (s.world.db.task? tid)).toNat } := .aside (.write (.keep _))
  cases hraises : env.raises with
  | some e =>
    rw [exec_store_raised _ hraises] at hx
    cases hx
    exact hkept
  | none =>
    rw [exec_store_done _ hraises] at hx
    generalize hexec : (Transaction.finishWorker task.id wid state event).exec settings env.clock
      s.world.db = out at hx
    cases hx
    rcases finishWorker_cases (hexec : Store.finishWorker _ _ _ _ _ _ = (out.1, out.2)) with
      ⟨hdb, -⟩ | ⟨row, st, hrow, htr, -, -, hrows, htask⟩
    · dsimp only
      rw [hdb]
      exact hkept
    · dsimp only
      have hverdicts : out.2.verdicts tid = s.world.db.verdicts tid ++
          (event.toList.filter (Event.isOf "evaluation" tid)).map Event.passed := by
        unfold Db.verdicts
        rw [eventsOf_finished hrows, List.map_append]
      rw [hverdicts, htask]
      by_cases htid : tid = task.id
      · subst htid
        have hall : event.toList.filter (Event.isOf "evaluation" task.id) = event.toList :=
          List.filter_eq_self.mpr fun e he => hjudged.event e (Option.mem_toList.mp he)
        rw [if_pos rfl, hrow, hall]
        exact judged_step hknows hjudged hrow htr
      · have hnone : event.toList.filter (Event.isOf "evaluation" tid) = [] :=
          List.filter_eq_nil_iff.mpr fun e he => by
            rw [isOf_of_ne (hjudged.event e (Option.mem_toList.mp he)) htid]
            decide
        rw [if_neg htid, hnone, List.map_nil, List.append_nil]
        exact hkept

/-! ### The beginning and the end of a retirement -/

/-- A retirement is let in, or the task is under retirement already. -/
theorem beginRetire_step {r : Except PyErr (Option (Option WorkerHandle))}
    (h : (system settings).exec t (.beginRetire tid) env s = (r, s')) :
    (∀ tid', View.Step t (s.view tid') (s'.view tid')) ∧
      ∀ handle, r = .ok (some handle) → (s'.view tid).owner = some t := by
  obtain ⟨w', hx, rfl⟩ := exec_cases h
  simp only [World.exec] at hx
  split at hx
  · cases hx
    refine ⟨fun tid' => ?_, fun handle hr => (by cases hr)⟩
    have hview : (⟨s.world, s.ledger.note t (.beginRetire tid) (.ok none) s.world.db s.world.db⟩ :
        State).view tid' = s.view tid' := by
      simp [State.view, Ledger.note, RetireTally.ownerAfter, Probe.note, setAt_self,
        RetireLemmas.turned_eq_false]
    rw [hview]
    exact .aside (.refl _)
  · next hfree =>
    cases hx
    refine ⟨fun tid' => ?_, fun _ _ => ?_⟩
    · have hnot : tid ∉ s.world.retiring := by simpa using hfree
      by_cases htid : tid' = tid
      · subst htid
        have hstep := View.Step.enter (t := t) (v := s.view tid') hnot
          fun t' hne => setAt_of_ne s.ledger.probe ({} : Probe) hne
        convert hstep using 1
        simp [State.view, Ledger.note, RetireTally.ownerAfter, Probe.note, turned_eq_false]
      · have hstep := View.Aside.probe (t := t) (v := s.view tid')
          fun t' hne => setAt_of_ne s.ledger.probe ({} : Probe) hne
        have hother : ¬ tid = tid' := fun heq => htid heq.symm
        convert View.Step.aside hstep using 1
        simp [State.view, Ledger.note, RetireTally.ownerAfter, Probe.note, turned_eq_false, htid,
          hother]
    · simp [State.view, Ledger.note, RetireTally.ownerAfter]

theorem endRetire_step {r : Except PyErr Unit} (howns : (s.view tid).owner = some t)
    (h : (system settings).exec t (.endRetire tid) env s = (r, s')) (tid' : TaskId) :
    View.Step t (s.view tid') (s'.view tid') := by
  obtain ⟨w', hx, rfl⟩ := exec_cases h
  cases hx
  by_cases htid : tid' = tid
  · subst htid
    have hstep := View.Step.leave howns
    convert hstep using 1
    simp [State.view, Ledger.note, RetireTally.ownerAfter, Probe.note, setAt_self, turned_eq_false]
  · have hother : ¬ tid = tid' := fun heq => htid heq.symm
    have hstep : View.Step t (s.view tid') (s.view tid') := .aside (.refl _)
    convert hstep using 1
    simp [State.view, Ledger.note, RetireTally.ownerAfter, Probe.note, setAt_self, turned_eq_false,
      htid, hother]

/-! ## The programs -/

/-- One action, from what the others keep. -/
theorem act_safe (tid : TaskId) {P : View → Prop}
    (hother : ∀ v v', P v → View.protocol.Other t v v' → P v')
    {a : Act β} {Q : Except PyErr β → State → Prop} (h : P (s.view tid))
    (hstep : ∀ s₁, (s₁.view tid).Inv → P (s₁.view tid) → ∀ env r s₂,
      (system settings).exec t a env s₁ = (r, s₂) →
      (∀ tid', View.Step t (s₁.view tid') (s₂.view tid')) ∧ Q r s₂) :
    Safe (contract settings) t (call a) Q s := by
  refine Safe.call fun s₁ hrely hinv => ⟨trivial, fun env r s₂ _ hexec => ?_⟩
  have hP : P (s₁.view tid) := (hrely tid).keeps (fun v v' hstep hP => hother v v' hP hstep) h
  exact hstep s₁ (hinv tid) hP env r s₂ hexec

/-- Plain actions keep what every aside keeps. -/
theorem plain_safe (tid : TaskId) {P : View → Prop}
    (hother : ∀ v v', P v → View.protocol.Other t v v' → P v')
    (hself : ∀ v v', v.Inv → P v → View.Aside t v v' → P v') {α : Type} {p : Program α}
    (hp : p.All PlainAct) (h : P (s.view tid)) :
    Safe (contract settings) t p (fun _ s => P (s.view tid)) s := by
  refine Safe.of_all (fun _ _ hP hrely => ?_) ?_ hp h
  · exact (hrely tid).keeps (fun v v' hstep hP => hother v v' hP hstep) hP
  · intro β a ha s hinv hP
    refine ⟨trivial, fun env r s' _ hexec => ?_⟩
    have haside := plain_aside ha hexec
    exact ⟨fun tid' => .aside (haside tid'), hself _ _ (hinv tid) hP (haside tid)⟩

theorem owns_aside {v v' : View} (howns : v.owner = some t) (h : View.Aside t v v') :
    v'.owner = some t := by
  cases h <;> exact howns

theorem owns_safe {α : Type} {p : Program α} (hp : p.All PlainAct)
    (howns : (s.view tid).owner = some t) :
    Safe (contract settings) t p (fun _ s => (s.view tid).owner = some t) s :=
  plain_safe tid (fun _ _ h hother => View.owns_other h hother)
    (fun _ _ _ h haside => owns_aside h haside) hp howns

theorem knows_safe {α : Type} {p : Program α} (hp : p.All PlainAct)
    (hknows : (s.view tid).Knows t task) :
    Safe (contract settings) t p (fun _ s => (s.view tid).Knows t task) s :=
  plain_safe tid (fun _ _ h hother => h.other hother) (fun _ _ hinv h haside => h.aside hinv haside)
    hp hknows

theorem plain_of_silent {α : Type} {p : Program α} (hp : p.All Act.Silent) : p.All PlainAct := by
  refine hp.mono fun a ha => ?_
  cases a with
  | store q =>
    cases q with
    | createTasks | setTaskState | claimQueuedTasks | releaseTaskClaim | markStaleDispatchingLost
    | activateWorker | finishWorker | deleteTask | createWorker | endWorker | appendEvent =>
      exact ha.elim
    | _ => exact ⟨trivial, fun _ h => h⟩
  | beginRetire | endRetire => exact ha.elim
  | _ => trivial

theorem recordEvent_plain {type : String} (htype : type ≠ "evaluation") (tid : TaskId)
    (payload : JsonObj) : (recordEvent tid type payload).All PlainAct := by
  refine Prog.All.bind_returns (plain_of_silent (newEvent_silent tid type payload))
    (newEvent_returns tid type payload) fun e he => Prog.all_call.mpr ⟨?_, fun _ h => h⟩
  show e.type ≠ "evaluation"
  rwa [he]

/-! ### The evaluation -/

/-- What an action that reads the outside adds to the findings of a retirement. -/
theorem probing_safe {a : Act β} (ha : PlainAct a) {P : Probe → Prop}
    {Q : Except PyErr β → Probe → Prop} (hknows : (s.view tid).Knows t task)
    (hP : P (s.ledger.probe t)) (hnote : ∀ probe r, P probe → Q r (probe.note a r)) :
    Safe (contract settings) t (call a)
      (fun r s => (s.view tid).Knows t task ∧ Q r (s.ledger.probe t)) s := by
  refine act_safe tid (P := fun v => v.Knows t task ∧ P (v.probe t))
    (fun v v' h hstep => ⟨h.1.other hstep, ?_⟩) ⟨hknows, hP⟩ ?_
  · rw [View.probe_other hstep]
    exact h.2
  · intro s₁ hinv h env r s₂ hexec
    have haside := plain_aside ha hexec
    refine ⟨fun tid' => .aside (haside tid'), h.1.aside hinv (haside tid), ?_⟩
    obtain ⟨w', -, rfl⟩ := exec_cases hexec
    have hprobe : (s₁.ledger.note t a r s₁.world.db w'.db).probe t =
        (s₁.ledger.probe t).note a r := setAt_same _ _ _
    rw [hprobe]
    exact hnote _ r h.2

/-- The evaluator runs in a local directory that exists, and what it returned is known. -/
theorem evaluateLocally_safe {name : String} (handle : Option WorkerHandle)
    (hknows : (s.view tid).Knows t task) :
    Safe (contract settings) t (evaluateLocally task name handle) (fun r s =>
      (s.view tid).Knows t task ∧ ∀ result, r = .ok result → result.passed = true →
        nonEmpty? task.targetHost = none ∧ (s.ledger.probe t).passed = some (name, task.id)) s := by
  have hraised {e : PyErr} {s : State} (h : (s.view tid).Knows t task) :
      (s.view tid).Knows t task ∧ ∀ result, (.error e : Except PyErr EvalResult) = .ok result →
        result.passed = true → nonEmpty? task.targetHost = none ∧
          (s.ledger.probe t).passed = some (name, task.id) := ⟨h, fun _ hr => (by cases hr)⟩
  unfold evaluateLocally
  split
  · exact hraised hknows
  · next hlocal =>
    have hhost : nonEmpty? task.targetHost = none := by simpa using hlocal
    extract_lets workspace
    have hdir : Safe (contract settings) t (call (.isDir workspace)) (fun r s =>
        (s.view tid).Knows t task ∧ ∀ flag, r = .ok flag → flag = true →
          (s.ledger.probe t).found = some workspace) s := by
      refine probing_safe (a := .isDir workspace) (P := fun _ => True)
        (Q := fun r probe => ∀ flag, r = .ok flag → flag = true → probe.found = some workspace)
        trivial hknows trivial ?_
      rintro probe r - flag rfl hflag
      simp [Probe.note, hflag]
    refine Safe.seq hdir (fun flag s h => ?_) fun e s h => hraised h.1
    split
    · exact hraised h.1
    · next hflag =>
      have hfound := h.2 flag rfl (by simpa using hflag)
      unfold Evaluator.get
      split
      · have hevaluate : Safe (contract settings) t (call (.evaluate name task workspace)) (fun r s =>
            (s.view tid).Knows t task ∧ ∀ result, r = .ok result → result.passed = true →
              (s.ledger.probe t).passed = some (name, task.id)) s := by
          refine probing_safe (a := .evaluate name task workspace)
            (P := fun probe => probe.found = some workspace)
            (Q := fun r probe => ∀ result, r = .ok result → result.passed = true →
              probe.passed = some (name, task.id)) trivial h.1 hfound ?_
          rintro probe r hfound result rfl hpassed
          simp [Probe.note, hpassed, hfound]
        exact hevaluate.mono fun r s hboth =>
          ⟨hboth.1, fun result hr hpassed => ⟨hhost, hboth.2 result hr hpassed⟩⟩
      · exact hraised h.1

/-- The evaluation ends in a judgement. -/
theorem evaluationEvent_safe (handle : Option WorkerHandle) (hknows : (s.view tid).Knows t task) :
    Safe (contract settings) t (evaluationEvent task handle) (fun r s =>
      (s.view tid).Knows t task ∧ ∀ judged, r = .ok judged → Judged task (s.ledger.probe t) judged)
      s := by
  unfold evaluationEvent
  split
  · next hnone =>
    refine ⟨hknows, ?_⟩
    rintro _ ⟨⟩
    exact .free hnone
  · next name hname =>
    refine Safe.bind (Safe.attempt ((evaluateLocally_safe handle hknows).mono ?_))
    rintro result s ⟨hknows, hresult⟩
    dsimp only
    have hstamp : Safe (contract settings) t (newEvent task.id "evaluation"
        (evaluationOutcome name result).2) (fun r s => (s.view tid).Knows t task ∧
          ∀ e, r = .ok e → Judged task (s.ledger.probe t)
            ((evaluationOutcome name result).1, some e)) s := by
      refine Safe.seq (probing_safe (a := .now)
        (P := fun probe => ∀ result', result = .ok result' → result'.passed = true →
          nonEmpty? task.targetHost = none ∧ probe.passed = some (name, task.id))
        (Q := fun _ probe => ∀ result', result = .ok result' → result'.passed = true →
          nonEmpty? task.targetHost = none ∧ probe.passed = some (name, task.id))
        trivial hknows hresult fun _ _ h => h) ?_ fun e s h => ⟨h.1, fun _ hr => (by cases hr)⟩
      · rintro ts s ⟨hknows, hresult⟩
        refine ⟨hknows, ?_⟩
        rintro _ ⟨⟩
        have hof : Event.isOf "evaluation" task.id ⟨task.id, "evaluation",
            (evaluationOutcome name result).2, ts⟩ = true := by simp [Event.isOf]
        cases result with
        | error exc => exact .failed hof rfl
        | ok result =>
          cases hpassed : result.passed with
          | false =>
            have hstate : (evaluationOutcome name (.ok result)).1 = "FAILED" := by
              simp [evaluationOutcome, hpassed]
            rw [hstate]
            exact .failed hof (by simp [evaluationOutcome, Event.passed, JsonObj.get?, hpassed])
          | true =>
            obtain ⟨hhost, hprobe⟩ := hresult result rfl hpassed
            have hstate : (evaluationOutcome name (.ok result)).1 = "DONE" := by
              simp [evaluationOutcome, hpassed]
            rw [hstate]
            exact .passed hname hhost hprobe hof
              (by simp [evaluationOutcome, Event.passed, JsonObj.get?, hpassed])
    refine Safe.seq hstamp (fun e s h => ⟨h.1, ?_⟩) fun e s h => ⟨h.1, fun _ hr => (by cases hr)⟩
    rintro _ ⟨⟩
    exact h.2 e rfl

/-! ### The retirement -/

theorem gateTerminal_safe (hopen : task.state.isTerminal = false) (terminal : String)
    (handle : Option WorkerHandle) (hknows : (s.view tid).Knows t task) :
    Safe (contract settings) t (gateTerminal task (some terminal) handle) (fun r s =>
      (s.view tid).Knows t task ∧ ∀ gated, r = .ok gated →
        ∃ state, gated.1 = some state ∧ Judged task (s.ledger.probe t) (state, gated.2)) s := by
  unfold gateTerminal
  rw [if_neg (by simp [hopen])]
  split
  · refine Safe.seq (evaluationEvent_safe handle hknows) (fun judged s h => ⟨h.1, ?_⟩)
      fun e s h => ⟨h.1, fun _ hr => (by cases hr)⟩
    rintro _ ⟨⟩
    exact ⟨judged.1, rfl, h.2 judged rfl⟩
  · next hnot =>
    refine ⟨hknows, ?_⟩
    rintro _ ⟨⟩
    exact ⟨terminal, rfl, .other fun heq => hnot (congrArg some heq)⟩

theorem stopForRetire_plain (tid : TaskId) (wid : Option WorkerId) (stopRuntime : Bool)
    (handle : Option WorkerHandle) : (stopForRetire tid wid stopRuntime handle).All PlainAct := by
  unfold stopForRetire
  split
  · exact Prog.All.tryCatch (Prog.all_call.mpr trivial) fun _ =>
      (recordEvent_plain (by decide) _ _).ignoring
  · trivial

/-- What a retirement does after its commit. -/
theorem concludeRetire_all {N : ∀ {β : Type}, Act β → Prop}
    (hrecord : ∀ tid payload, (recordEvent tid "resource_release_failed" payload).All N)
    (hrelease : ∀ kind lockId wid, N (.releaseId kind lockId wid))
    (hunregister : ∀ tid reason, N (.unregister tid reason)) (task : Task) (tid : TaskId)
    (wid : Option WorkerId) (worker : Option Worker) (result : Option String) :
    (concludeRetire task tid wid worker result).All N := by
  refine Prog.All.bind ?_ fun _ => Prog.All.bind (Prog.all_call.mpr (hunregister _ _)) fun _ => trivial
  unfold releaseForRetire
  split
  · trivial
  · split
    · refine Prog.All.tryCatch ?_ fun _ => (hrecord _ _).ignoring
      exact Prog.All.bind (Prog.all_ofExcept _) fun _ => Prog.all_call.mpr (hrelease _ _ _)
    · trivial

theorem concludeRetire_plain (task : Task) (tid : TaskId) (wid : Option WorkerId)
    (worker : Option Worker) (result : Option String) :
    (concludeRetire task tid wid worker result).All PlainAct :=
  concludeRetire_all (recordEvent_plain (by decide)) (fun _ _ _ => trivial) (fun _ _ => trivial)
    task tid wid worker result

theorem endWorker?_plain (wid : Option WorkerId) : (endWorker? wid).All PlainAct := by
  cases wid with
  | none => trivial
  | some w => exact Prog.all_call.mpr ⟨trivial, fun _ h => h⟩

/-- The commit of a live task is justified. -/
theorem commitRetire_safe (hopen : task.state.isTerminal = false) (wid : Option WorkerId)
    (worker : Option Worker) (terminal : String) (handle : Option WorkerHandle)
    (hknows : (s.view task.id).Knows t task) :
    Safe (contract settings) t (commitRetire task task.id wid worker (some terminal) handle)
      (fun _ s => (s.view task.id).owner = some t) s := by
  refine Safe.seq (gateTerminal_safe hopen terminal handle hknows) ?_ fun e s h => h.1.owns
  rintro ⟨finalState, event⟩ s ⟨hknows, hgated⟩
  obtain ⟨state, hstate, hjudged⟩ := hgated _ rfl
  obtain rfl : finalState = some state := hstate
  dsimp only
  split
  · next state' hstate' =>
    obtain rfl : state = state' := Option.some.inj (UndispatchedLemmas.nonEmpty?_eq_some hstate')
    refine Safe.seq (act_safe task.id
      (P := fun v => v.Knows t task ∧ Judged task (v.probe t) (state, event))
      (Q := fun _ s => (s.view task.id).owner = some t) (fun v v' h hother => ⟨h.1.other hother, ?_⟩)
      ⟨hknows, hjudged⟩ ?_) (fun committed s howns => ?_) fun e s howns => howns
    · rw [View.probe_other hother]
      exact h.2
    · exact fun s₁ hinv h env r s₂ hexec => finishWorker_step h.1 h.2 hexec
    · split
      · exact owns_safe (concludeRetire_plain _ _ _ _ _) howns
      · exact howns
  · exact owns_safe (Prog.All.bind (endWorker?_plain wid) fun _ => concludeRetire_plain _ _ _ _ _)
      hknows.owns

/-- A terminal task keeps its state. -/
theorem commitRetire_plain (hend : task.state.isTerminal = true) (tid : TaskId)
    (wid : Option WorkerId) (worker : Option Worker) (terminal : Option String)
    (handle : Option WorkerHandle) :
    (commitRetire task tid wid worker terminal handle).All PlainAct := by
  have hgated : gateTerminal task terminal handle = pure (none, none) := by
    unfold gateTerminal
    rw [if_pos hend]
  unfold commitRetire
  rw [hgated]
  have hend : (endWorker? wid >>= fun _ => concludeRetire task tid wid worker none).All PlainAct :=
    Prog.All.bind (endWorker?_plain wid) fun _ => concludeRetire_plain _ _ _ _ _
  exact hend

/-- The row that a retirement reads, while it holds `_RETIRING`. -/
theorem getTask_safe (howns : (s.view tid).owner = some t) :
    Safe (contract settings) t (store (.getTask tid)) (fun r s => (s.view tid).owner = some t ∧
      ∀ task, r = .ok (some task) → task.id = tid ∧
        (task.state.isTerminal = false → (s.view tid).Knows t task)) s := by
  refine act_safe tid (fun _ _ h hother => View.owns_other h hother) howns
    fun s₁ hinv howns env r s₂ hexec => ?_
  have hplain : PlainAct (.store (.getTask tid)) := ⟨trivial, fun _ h => h⟩
  have haside := plain_aside hplain hexec
  refine ⟨fun tid' => .aside (haside tid'), owns_aside howns (haside tid), ?_⟩
  rintro task rfl
  obtain ⟨w', hx, rfl⟩ := exec_cases hexec
  cases hraises : env.raises with
  | some e =>
    rw [exec_store_raised _ hraises] at hx
    cases hx
  | none =>
    rw [exec_store_done _ hraises] at hx
    have hread : s₁.world.db.task? tid = some task := Except.ok.inj (congrArg Prod.fst hx)
    obtain rfl : s₁.world = w' := congrArg Prod.snd hx
    refine ⟨Table.key_of_get? hread, fun hopen => ⟨owns_aside howns (haside tid), ?_, ?_⟩⟩
    · exact ⟨task, hread, rfl, rfl, rfl⟩
    · exact Or.inl ⟨task, hread, hopen⟩

theorem retireBody_safe (wid : Option WorkerId) (terminal : String) (stopRuntime : Bool)
    (handle : Option WorkerHandle) (howns : (s.view tid).owner = some t) :
    Safe (contract settings) t (retireBody tid wid (some terminal) stopRuntime handle)
      (fun _ s => (s.view tid).owner = some t) s := by
  refine Safe.seq (owns_safe (plain_of_silent (getWorker?_silent wid)) howns) ?_ fun _ _ h => h
  intro worker s howns
  refine Safe.seq (getTask_safe howns) ?_ fun _ _ h => h.1
  rintro row s ⟨howns, hread⟩
  have hleave : (call (.unregister tid (.retirement tid wid)) >>= fun _ => pure none :
      Program (Option String)).All PlainAct :=
    Prog.All.bind (Prog.all_call.mpr trivial) fun _ => trivial
  cases row with
  | none => exact owns_safe hleave howns
  | some task =>
    obtain ⟨rfl, hknows⟩ := hread task rfl
    dsimp only
    split
    · exact owns_safe hleave howns
    · cases hstate : task.state.isTerminal with
      | true =>
        exact owns_safe (Prog.All.bind (stopForRetire_plain _ wid stopRuntime handle) fun _ =>
          commitRetire_plain hstate _ _ _ _ _) howns
      | false =>
        refine Safe.seq (knows_safe (stopForRetire_plain _ wid stopRuntime handle) (hknows hstate))
          (fun _ s h => ?_) fun _ _ h => h.owns
        exact commitRetire_safe hstate wid worker terminal handle h

/-! ### Whole programs -/

/-- Every action of the program makes a step, from whatever state it starts in. -/
def Keeps (settings : Settings) (t : ThreadId) {α : Type} (p : Program α) : Prop :=
  ∀ s, Safe (contract settings) t p (fun _ _ => True) s

section Keeps

variable {α : Type} {p : Program α}

theorem keeps_bind {f : α → Program β} (hp : Keeps settings t p) (hf : ∀ a, Keeps settings t (f a)) :
    Keeps settings t (p >>= f) :=
  fun s => Safe.seq (hp s) (fun a s _ => hf a s) fun _ _ _ => trivial

theorem keeps_attempt (hp : Keeps settings t p) : Keeps settings t p.attempt :=
  fun s => Safe.attempt (hp s)

theorem keeps_plain (hp : p.All PlainAct) : Keeps settings t p :=
  fun _ => plain_safe "" (P := fun _ => True) (fun _ _ _ _ => trivial)
    (fun _ _ _ _ _ => trivial) hp trivial

theorem keeps_silent (hp : p.All Act.Silent) : Keeps settings t p := keeps_plain (plain_of_silent hp)

theorem keeps_call {a : Act α} (ha : PlainAct a) : Keeps settings t (call a) :=
  keeps_plain (Prog.all_call.mpr ha)

theorem keeps_read {q : Transaction α} (hq : (Act.store q).Silent) : Keeps settings t (store q) :=
  keeps_silent (Prog.all_call.mpr hq)

theorem keeps_record {type : String} (htype : type ≠ "evaluation") (tid : TaskId)
    (payload : JsonObj) : Keeps settings t (recordEvent tid type payload) :=
  keeps_plain (recordEvent_plain htype tid payload)

theorem keeps_pure (a : α) : Keeps settings t (pure a : Program α) := fun _ => trivial

end Keeps

/-- A state that `set_task_state` is asked for. -/
theorem setTaskState_plain {target : String} (htarget : target ≠ "DONE") (tid : TaskId)
    (expected : Option (List TaskState)) : PlainAct (.store (.setTaskState tid target expected)) :=
  ⟨trivial, fun _ h => htarget h.2⟩

theorem releaseTaskClaim_plain {target : String} (htarget : target ≠ "DONE") (tid : TaskId) :
    PlainAct (.store (.releaseTaskClaim tid target)) := ⟨trivial, fun _ h => htarget h.2⟩

/-- A retirement judges a task at most once. -/
theorem retire_keeps (tid : TaskId) (wid : Option WorkerId) (terminal : String)
    (stopRuntime : Bool) : Keeps settings t (retire tid wid (some terminal) stopRuntime) := by
  unfold retire
  split
  · refine keeps_bind (keeps_read trivial) fun task => ?_
    cases task with
    | none => exact keeps_pure _
    | some task =>
      dsimp only
      split
      · exact keeps_pure _
      · exact keeps_bind (keeps_call (setTaskState_plain (by decide) _ _)) fun _ => keeps_pure _
  · intro s
    have hbegin : Safe (contract settings) t (call (.beginRetire tid))
        (fun r s => ∀ handle, r = .ok (some handle) → (s.view tid).owner = some t) s :=
      act_safe tid (P := fun _ => True) (fun _ _ _ _ => trivial) trivial
        fun _ _ _ _ _ _ hexec => beginRetire_step hexec
    refine Safe.seq hbegin (fun handle s howns => ?_) fun _ _ _ => trivial
    cases handle with
    | none => trivial
    | some handle =>
      refine Safe.tryFinally ((retireBody_safe wid terminal stopRuntime handle
        (howns handle rfl)).mono fun r s howns => ?_)
      refine (act_safe tid (P := fun v => v.owner = some t) (Q := fun _ _ => True)
        (fun _ _ h hother => View.owns_other h hother) howns ?_).mono fun r' s _ => ?_
      · exact fun s₁ _ howns env r s₂ hexec => ⟨endRetire_step howns hexec, trivial⟩
      · cases r' <;> trivial

/-! ### The dispatcher -/

theorem plain_call {α : Type} {a : Act α} (ha : PlainAct a) : (call a : Program α).All PlainAct :=
  Prog.all_call.mpr ha

theorem publishTask_plain (tid : TaskId) : (publishTask tid).All PlainAct :=
  Prog.All.ignoring (plain_call trivial)

theorem publishTasks_plain (tids : List TaskId) : (publishTasks tids).All PlainAct := by
  induction tids with
  | nil => trivial
  | cons tid tids ih => exact Prog.All.bind (publishTask_plain tid) fun _ => ih

theorem schedulerEvent_plain {type : String} (htype : type ≠ "evaluation") (tid : TaskId)
    (payload : JsonObj) : (schedulerEvent tid type payload).All PlainAct :=
  (recordEvent_plain htype tid payload).ignoring

theorem observeAndRecord_plain (wid : Option WorkerId) (h : WorkerHandle) (publish : Bool) :
    (observeAndRecord settings wid h publish).All PlainAct := by
  refine Prog.All.bind (Prog.all_ofExcept _) fun rt => ?_
  refine Prog.All.bind (plain_of_silent (observeWorker_silent settings wid h rt)) fun found => ?_
  refine Prog.All.bind (recordEvent_plain (by decide) _ _) fun _ => ?_
  split
  · exact Prog.All.bind (plain_call trivial) fun _ => trivial
  · trivial

theorem releaseLock_plain (task : Task) (lock : Option Lock) : (releaseLock task lock).All PlainAct := by
  cases lock with
  | none => trivial
  | some lock =>
    exact Prog.All.ignoring (Prog.All.bind (Prog.all_ofExcept _) fun _ => plain_call trivial)

theorem finishFailedClaim_plain (task : Task) (reason : String) (retryable : Bool) :
    (finishFailedClaim task reason retryable).All PlainAct := by
  refine Prog.All.bind (Prog.All.attempt (plain_call (releaseTaskClaim_plain ?_ _))) fun released => ?_
  · cases retryable <;> decide
  · exact Prog.All.bind (schedulerEvent_plain (by decide) _ _) fun _ => publishTask_plain _

theorem resolveDispatch_plain (task : Task) (wid : WorkerId) :
    (resolveDispatch settings task wid).All PlainAct := by
  refine Prog.All.bind (Prog.all_ofExcept _) fun rt => ?_
  split
  · trivial
  refine Prog.All.bind (Prog.all_ofExcept _) fun adapter => ?_
  refine Prog.All.bind (plain_of_silent (resolveHost_silent settings task)) fun host => ?_
  dsimp only
  split
  · trivial
  cases adapter with
  | none => trivial
  | some kind =>
    refine Prog.All.bind (plain_call trivial) fun lock => ?_
    cases lock <;> trivial

theorem prepareAll_plain (tasks : List Task) : (prepareAll settings tasks).All PlainAct := by
  induction tasks with
  | nil => trivial
  | cons task tasks ih =>
    refine Prog.All.bind ?_ fun _ => Prog.All.bind ih fun _ => trivial
    refine Prog.All.bind (plain_call trivial) fun wid => ?_
    refine Prog.All.bind (Prog.All.attempt (Prog.All.bind (resolveDispatch_plain task wid)
      fun d => ?_)) fun d => ?_
    · cases d with
      | some d => trivial
      | none =>
        exact Prog.All.bind (plain_call (releaseTaskClaim_plain (by decide) _)) fun _ =>
          Prog.All.bind (publishTask_plain _) fun _ => trivial
    · cases d with
      | ok d => trivial
      | error exc => exact Prog.All.bind (finishFailedClaim_plain _ _ _) fun _ => trivial

theorem compensate_plain (d : Dispatch) (handle : Option WorkerHandle) (exc : PyErr) :
    (compensate d handle exc).All PlainAct := by
  have hcleanUp : (cleanUp d handle).All PlainAct := by
    cases handle with
    | none => trivial
    | some h =>
      refine Prog.All.bind (Prog.All.attempt (plain_call trivial)) fun stopped => ?_
      cases stopped <;> trivial
  have hdrop : (dropHandle d handle).All PlainAct := by
    cases handle with
    | none => trivial
    | some h => exact plain_call trivial
  refine Prog.All.bind hcleanUp fun cleanupError => Prog.All.bind hdrop fun _ =>
    Prog.All.bind (releaseLock_plain d.task d.lock) fun _ => ?_
  cases cleanupError with
  | some stopExc =>
    exact Prog.All.bind (Prog.All.attempt (plain_call (releaseTaskClaim_plain (by decide) _)))
      fun _ => schedulerEvent_plain (by decide) _ _
  | none => exact finishFailedClaim_plain _ _ _

theorem completeDispatch_plain (d : Dispatch) (started : Except PyErr WorkerHandle) :
    (completeDispatch settings d started).All PlainAct := by
  cases started with
  | error exc => exact Prog.All.bind (compensate_plain d none exc) fun _ => trivial
  | ok h =>
    have hactivate : (activate d h).All PlainAct := by
      refine Prog.All.bind (plain_call trivial) fun now =>
        Prog.All.bind (plain_call trivial) fun _ =>
          Prog.All.bind (plain_call ⟨trivial, fun _ h => (by cases h.2)⟩) fun owned => ?_
      cases owned <;> trivial
    refine Prog.All.bind hactivate.attempt fun activated => ?_
    cases activated with
    | error exc => exact Prog.All.bind (compensate_plain d (some h) exc) fun _ => trivial
    | ok _ =>
      refine Prog.All.bind (schedulerEvent_plain (by decide) _ _) fun _ => ?_
      exact Prog.All.bind (Prog.All.bind (observeAndRecord_plain _ _ _).attempt fun _ => trivial)
        fun _ => trivial

theorem completeAll_plain (n : Nat) (ds : List Dispatch) :
    (completeAll settings n ds).All PlainAct := by
  induction n generalizing ds with
  | zero => trivial
  | succ n ih =>
    cases ds with
    | nil => trivial
    | cons d ds =>
      refine Prog.All.bind (plain_call trivial) fun started => ?_
      exact Prog.All.bind (completeDispatch_plain _ started.2) fun _ =>
        Prog.All.bind (ih _) fun _ => trivial

theorem tick_plain : (tick settings).All PlainAct := by
  refine Prog.All.bind (plain_call trivial) fun _ => ?_
  refine Prog.All.bind (plain_call ⟨trivial, fun _ h => (by cases h)⟩) fun claimed => ?_
  refine Prog.All.bind (publishTasks_plain _) fun _ => ?_
  exact Prog.All.bind (prepareAll_plain claimed) fun prepared => completeAll_plain _ prepared

theorem sweep_plain : sweep.All PlainAct := by
  have hother : "evaluation" ≠ "dispatch_lost" := by decide
  exact Prog.All.bind (plain_call ⟨hother, fun _ h => (by cases h)⟩) fun lost =>
    publishTasks_plain lost

/-! ### Submissions -/

theorem validateTaskCreate_returns (pid : String) (item : TaskCreate) :
    (validateTaskCreate settings pid item).Returns fun task => task.state = .queued := by
  refine Prog.Returns.bind (Prog.returns_any _) fun _ _ => ?_
  refine Prog.Returns.bind (Prog.returns_any _) fun _ _ => ?_
  refine Prog.Returns.bind (Prog.returns_any _) fun _ _ => ?_
  refine Prog.Returns.bind (Prog.returns_any _) fun _ _ => ?_
  refine Prog.Returns.bind (Prog.returns_any _) fun _ _ => ?_
  exact Prog.Returns.bind (Prog.returns_any _) fun _ _ => rfl

theorem validateAll_returns (pid : String) (items : List TaskCreate) :
    (validateAll settings pid items).Returns fun tasks => ∀ task ∈ tasks, task.state = .queued := by
  induction items with
  | nil => exact fun task h => (by cases h)
  | cons item items ih =>
    refine Prog.Returns.bind (validateTaskCreate_returns pid item) fun task htask => ?_
    refine Prog.Returns.bind ih fun tasks htasks => ?_
    intro task' hmem
    rcases List.mem_cons.mp hmem with rfl | hmem
    · exact htask
    · exact htasks task' hmem

theorem createTasks_plain (pid : String) (tasks : List TaskCreate) :
    (createTasks settings pid tasks).All PlainAct := by
  have hread {α : Type} {q : Transaction α} (hq : (Act.store q).Silent) :
      (store q).All PlainAct := plain_of_silent (Prog.all_call.mpr hq)
  refine Prog.All.bind (plain_of_silent (silent_checkId _ _)) fun _ => ?_
  split
  · trivial
  split
  · trivial
  refine Prog.All.bind (hread trivial) fun project => ?_
  cases project with
  | none => trivial
  | some _ =>
    dsimp only
    split
    · trivial
    refine Prog.All.bind (hread trivial) fun existing => ?_
    split
    · trivial
    refine Prog.All.bind_returns (plain_of_silent (validateAll_silent settings pid tasks))
      (validateAll_returns pid tasks) fun prepared hprepared => ?_
    have hcreate : PlainAct (.store (.createTasks prepared)) := by
      refine ⟨trivial, ?_⟩
      rintro tid ⟨task, hmem, -, hdone⟩
      rw [hprepared task hmem] at hdone
      cases hdone
    refine Prog.All.bind (Prog.All.attempt (plain_call hcreate)) fun created => ?_
    cases created with
    | error exc =>
      dsimp only
      split <;> trivial
    | ok _ =>
      refine Prog.All.bind ?_ fun _ => trivial
      generalize prepared = published
      induction published with
      | nil => trivial
      | cons task published ih => exact Prog.All.bind (plain_call trivial) fun _ => ih

/-! ### The operations that retire -/

theorem observeRounds_keeps (entries : List (TaskId × HandleEntry)) :
    Keeps settings t (observeRounds settings entries) := by
  induction entries with
  | nil => exact keeps_pure _
  | cons entry entries ih =>
    refine keeps_bind ?_ fun _ => keeps_bind ih fun _ => keeps_pure _
    have hentry : Keeps settings t (observeEntry settings entry.1 entry.2.1 entry.2.2) := by
      refine keeps_bind (keeps_plain (observeAndRecord_plain _ _ _)) fun record => ?_
      split
      · exact keeps_pure _
      · refine keeps_bind (retire_keeps _ _ _ _) fun committed => ?_
        cases committed with
        | none => exact keeps_pure _
        | some state => exact keeps_bind (keeps_record (by decide) _ _) fun _ => keeps_pure _
    refine keeps_bind (keeps_attempt hentry) fun found => ?_
    cases found with
    | error e => exact keeps_pure _
    | ok found =>
      refine keeps_plain (Prog.All.bind (Prog.All.ignoring ?_) fun _ => trivial)
      refine Prog.All.bind (plain_of_silent (Prog.all_call.mpr trivial)) fun row => ?_
      cases row with
      | none => trivial
      | some row => exact plain_call trivial

theorem publishEntry_plain (tid : TaskId) (status : Option JsonObj) :
    (publishEntry tid status).All PlainAct := by
  refine Prog.All.bind (plain_of_silent (Prog.all_call.mpr trivial)) fun row => ?_
  cases row with
  | none => trivial
  | some row => exact plain_call trivial

theorem workerPing_keeps (authorization : Option String) (body : WorkerPing) :
    Keeps settings t (workerPing settings authorization body) := by
  refine keeps_bind (keeps_silent (checkPingToken_silent _ _)) fun _ => ?_
  refine keeps_bind (keeps_silent (silent_checkId _ _)) fun _ => ?_
  refine keeps_bind (keeps_read trivial) fun task => ?_
  cases task with
  | none => exact keeps_silent (silent_httpException _ _)
  | some task =>
    dsimp only
    split
    · exact keeps_silent (silent_httpException _ _)
    refine keeps_bind (keeps_read trivial) fun wid => ?_
    cases wid with
    | none => exact keeps_silent (silent_httpException _ _)
    | some _ =>
      refine keeps_bind (keeps_record (by decide) _ _) fun _ => ?_
      refine keeps_bind ?_ fun _ => keeps_plain (publishEntry_plain _ _)
      unfold retireReported
      split
      · exact keeps_pure _
      · refine keeps_bind (keeps_read trivial) fun wid => ?_
        refine keeps_bind (retire_keeps _ _ _ _) fun committed => ?_
        cases committed with
        | none => exact keeps_pure _
        | some state => exact keeps_record (by decide) _ _

theorem actuateNudge_plain (tid : TaskId) (h : WorkerHandle) (payload : JsonObj) :
    (actuateNudge tid h payload).All PlainAct := by
  refine Prog.All.bind (Prog.All.attempt (plain_call trivial)) fun pasted => ?_
  cases pasted with
  | error exc => trivial
  | ok _ =>
    refine Prog.All.bind (plain_of_silent (Prog.all_call.mpr trivial)) fun task => ?_
    cases task with
    | none => trivial
    | some task =>
      dsimp only
      split
      · exact Prog.All.bind (plain_call (setTaskState_plain (by decide) _ _)) fun _ => trivial
      · trivial

theorem actuateSwitch_plain (tid : TaskId) (h : WorkerHandle) (rt : RuntimeAdapter) (pause : Bool) :
    (actuateSwitch tid h rt pause).All PlainAct := by
  have hswitch : (switchWorker tid h pause).All PlainAct := by
    refine Prog.All.bind ?_ fun _ => plain_call (setTaskState_plain ?_ _ _)
    · cases pause <;> exact plain_call trivial
    · cases pause <;> decide
  unfold actuateSwitch
  extract_lets action
  split_ifs
  all_goals first
    | trivial
    | refine Prog.All.bind hswitch.attempt fun switched => ?_
      split <;> trivial

theorem actuateStop_keeps (tid : TaskId) (wid : Option WorkerId) (h : WorkerHandle) :
    Keeps settings t (actuateStop tid wid h) := by
  refine keeps_bind (keeps_attempt (keeps_call trivial)) fun stopped => ?_
  cases stopped with
  | error exc => exact keeps_pure _
  | ok _ =>
    refine keeps_bind (retire_keeps _ _ _ _) fun finalState => ?_
    split
    · exact keeps_pure _
    · refine keeps_bind (keeps_read trivial) fun task => ?_
      refine keeps_bind (keeps_silent (getWorker?_silent wid)) fun worker => ?_
      split <;> exact keeps_pure _

theorem actuateTask_keeps (tid : TaskId) (action : String) (payload : Json) :
    Keeps settings t (actuateTask tid action payload) := by
  have hactuate (payload : JsonObj) : Keeps settings t (actuate tid action payload) := by
    refine keeps_bind (keeps_call trivial) fun entry => ?_
    cases entry with
    | none => exact keeps_pure _
    | some entry =>
      obtain ⟨wid, h⟩ := entry
      refine keeps_bind (keeps_plain (Prog.all_ofExcept _)) fun rt => ?_
      split
      · exact keeps_plain (actuateNudge_plain tid h payload)
      · split
        · exact actuateStop_keeps tid wid h
        · split
          · exact keeps_plain (actuateSwitch_plain tid h rt true)
          · split
            · exact keeps_plain (actuateSwitch_plain tid h rt false)
            · exact keeps_pure _
  refine keeps_bind (keeps_read trivial) fun task => ?_
  cases task with
  | none => exact keeps_silent (silent_httpException _ _)
  | some _ =>
    dsimp only
    split
    · exact keeps_silent (silent_httpException _ _)
    cases payload with
    | obj payload =>
      refine keeps_bind (keeps_call trivial) fun length => ?_
      split
      · exact keeps_silent (silent_httpException _ _)
      split
      · exact keeps_silent (silent_httpException _ _)
      refine keeps_bind (hactuate payload) fun actuated => ?_
      cases actuated with
      | error reason => exact keeps_silent (silent_httpException _ _)
      | ok _ =>
        exact keeps_bind (keeps_record (by decide) _ _) fun _ => keeps_plain (publishEntry_plain _ _)
    | _ => exact keeps_silent (silent_httpException _ _)

theorem markLost_keeps (tid : TaskId) (wid : Option WorkerId) (reason : String)
    (stopRuntime : Bool) : Keeps settings t (markLost tid wid reason stopRuntime) := by
  refine keeps_bind (retire_keeps _ _ _ _) fun state => ?_
  cases state with
  | none => exact keeps_pure _
  | some _ => exact keeps_record (by decide) _ _

theorem findWindowAmong_plain (host : Option String) (names : List String) :
    (findWindowAmong settings host names).All PlainAct := by
  induction names with
  | nil => trivial
  | cons window names ih =>
    refine Prog.All.bind (plain_call trivial) fun pane => ?_
    cases pane with
    | none => trivial
    | some pane =>
      dsimp only
      split
      · trivial
      · exact ih

theorem reattach_keeps (task : Task) (workspace : String) (host : Option String)
    (wid : Option WorkerId) (found : Option (String × String)) :
    Keeps settings t (reattach settings task workspace host wid found) := by
  cases found with
  | none => exact keeps_pure _
  | some found =>
    obtain ⟨window, pane⟩ := found
    unfold reattach
    dsimp only
    split
    · exact keeps_bind (markLost_keeps _ _ _ _) fun _ => keeps_pure _
    · refine keeps_bind (keeps_call trivial) fun _ => ?_
      cases wid with
      | none => exact keeps_bind (markLost_keeps _ _ _ _) fun _ => keeps_pure _
      | some _ => exact keeps_pure _

theorem reconcileTask_keeps (task : Task) : Keeps settings t (reconcileTask settings task) := by
  have hlost (wid : Option WorkerId) (reason : String) : Keeps settings t
      (markLost task.id wid reason false >>= fun _ => pure 0 : Program Nat) :=
    keeps_bind (markLost_keeps _ _ _ _) fun _ => keeps_pure _
  have hhost : Keeps settings t (reconcileHost task) := by
    unfold reconcileHost
    split
    · exact keeps_pure _
    · exact keeps_bind (keeps_read trivial) fun _ => keeps_pure _
  unfold reconcileTask
  split
  · exact keeps_pure _
  · refine keeps_bind (keeps_read trivial) fun wid => ?_
    split
    · exact hlost _ _
    · split
      · exact hlost _ _
      · refine keeps_bind hhost fun host => ?_
        cases host with
        | none => exact hlost _ _
        | some host =>
          refine keeps_bind ?_ fun found => reattach_keeps _ _ _ _ _
          exact keeps_bind (keeps_call trivial) fun _ => keeps_plain (findWindowAmong_plain _ _)

theorem reconcileAll_keeps (tasks : List Task) : Keeps settings t (reconcileAll settings tasks) := by
  induction tasks with
  | nil => exact keeps_pure _
  | cons task tasks ih =>
    exact keeps_bind (reconcileTask_keeps task) fun _ => keeps_bind ih fun _ => keeps_pure _

/-- Every operation but a deletion makes only steps. -/
theorem program_keeps {op : Op} (h : ∀ tid, op ≠ .deleteTask tid) :
    Keeps settings t (op.program settings) := by
  cases op with
  | createProject p => exact keeps_bind (keeps_read trivial) fun _ => keeps_pure _
  | createHost host => exact keeps_read trivial
  | createTasks pid tasks =>
    exact keeps_bind (keeps_plain (createTasks_plain pid tasks)) fun _ => keeps_pure _
  | deleteTask tid => exact absurd rfl (h tid)
  | workerPing authorization body => exact workerPing_keeps authorization body
  | actuate tid action payload => exact actuateTask_keeps tid action payload
  | tick => exact keeps_bind (keeps_plain tick_plain) fun _ => keeps_pure _
  | sweep => exact keeps_plain sweep_plain
  | observeRunning =>
    refine keeps_bind (keeps_bind (keeps_call trivial) fun entries => ?_) fun _ => keeps_pure _
    exact observeRounds_keeps entries
  | recover tid =>
    exact keeps_bind (keeps_call (setTaskState_plain (by decide) _ _)) fun _ => keeps_pure _
  | reconcileRunning =>
    refine keeps_bind (keeps_bind (keeps_read trivial) fun tasks => ?_) fun _ => keeps_pure _
    exact reconcileAll_keeps tasks

theorem sound (settings : Settings) :
    (contract settings).Sound (fun op => ∀ tid, op ≠ .deleteTask tid) True where
  safe := by
    intro op hop t s _ _
    refine (program_keeps hop s).mono fun _ s _ hinv => ?_
    exact ⟨hinv, fun _ => trivial, fun _ _ _ => .refl⟩
  restart := by
    refine fun _ s hinv => ⟨fun tid => ?_, fun _ _ => trivial⟩
    exact ⟨fun t h => (by cases h), (hinv tid).counted, (hinv tid).gated, (hinv tid).refused⟩

/-! ### The commits of a retirement -/

theorem evaluationEvent_returns {name : String} (hname : nonEmpty? task.evaluator = some name)
    (handle : Option WorkerHandle) :
    (evaluationEvent task handle).Returns fun judged => ∃ e, judged.2 = some e ∧
      e.isOf "evaluation" task.id = true ∧ judged.1 = if e.passed then "DONE" else "FAILED" := by
  unfold evaluationEvent
  rw [hname]
  refine Prog.Returns.bind (Prog.returns_any _) fun result _ => ?_
  refine Prog.Returns.bind (newEvent_stamped _ _ _) ?_
  rintro e ⟨ts, rfl⟩
  refine ⟨_, rfl, by simp [Event.isOf], ?_⟩
  cases result with
  | ok result => simp [evaluationOutcome, Event.passed, JsonObj.get?]
  | error exc => simp [evaluationOutcome, Event.passed, JsonObj.get?]

theorem silent_matches {p : Program β} (hp : p.All Act.Silent) : p.All (Matches task) := by
  refine hp.mono fun a ha => ?_
  cases a with
  | store q =>
    cases q with
    | finishWorker => exact ha.elim
    | _ => trivial
  | _ => trivial

theorem gateTerminal_eq (hopen : task.state.isTerminal = false) (handle : Option WorkerHandle) :
    gateTerminal task (some "DONE") handle =
      evaluationEvent task handle >>= fun judged => pure (some judged.1, judged.2) := by
  unfold gateTerminal
  rw [if_neg (by simp [hopen]), if_pos rfl]

/-- A retirement to `DONE` commits what the evaluator found. -/
theorem commitRetire_matches {name : String} (hname : nonEmpty? task.evaluator = some name)
    (hopen : task.state.isTerminal = false) (wid : Option WorkerId) (worker : Option Worker)
    (handle : Option WorkerHandle) :
    (commitRetire task task.id wid worker (some "DONE") handle).All (Matches task) := by
  have hreturns : (gateTerminal task (some "DONE") handle).Returns fun gated => ∃ e,
      gated.2 = some e ∧ e.isOf "evaluation" task.id = true ∧
        gated.1 = some (if e.passed then "DONE" else "FAILED") := by
    rw [gateTerminal_eq hopen]
    refine Prog.Returns.bind (evaluationEvent_returns hname handle) ?_
    rintro judged ⟨e, hevent, hof, hstate⟩
    exact ⟨e, hevent, hof, congrArg some hstate⟩
  have hsilent : (gateTerminal task (some "DONE") handle).All (Matches task) := by
    rw [gateTerminal_eq hopen]
    exact Prog.All.bind (silent_matches (evaluationEvent_silent task handle)) fun _ => trivial
  unfold commitRetire
  refine Prog.All.bind_returns hsilent hreturns ?_
  rintro ⟨_, event⟩ ⟨e, hevent, hof, rfl⟩
  have hnonEmpty : nonEmpty? (some (if e.passed then "DONE" else "FAILED")) =
      some (if e.passed then "DONE" else "FAILED") := by
    cases e.passed <;> rfl
  dsimp only
  rw [hnonEmpty]
  refine Prog.All.bind (Prog.all_call.mpr ⟨e, hevent, hof, rfl⟩) fun committed => ?_
  have hrecord (tid : TaskId) (payload : JsonObj) :
      (recordEvent tid "resource_release_failed" payload).All (Matches task) :=
    Prog.All.bind (silent_matches (newEvent_silent _ _ _)) fun _ => Prog.all_call.mpr trivial
  split
  · exact concludeRetire_all hrecord (fun _ _ _ => trivial) (fun _ _ => trivial) _ _ _ _ _
  · trivial

end GateLemmas

/-! ## The gate -/

/-- What an action of thread `t`, which leads from `s` to `s'`, may do to a task. -/
structure Passes (t : ThreadId) (s s' : State) (tid : TaskId) : Prop where
  /-- `DONE` is committed together with the verdict, after a local evaluation that passed. -/
  done : ∀ row, s'.world.db.task? tid = some row → row.state = .done →
    s.world.db.state? tid ≠ some .done → ∀ name, nonEmpty? row.evaluator = some name →
      s'.world.db.verdicts tid = s.world.db.verdicts tid ++ [true] ∧
        nonEmpty? row.targetHost = none ∧ (s.ledger.probe t).passed = some (name, tid)
  /-- A verdict is committed together with its state. -/
  verdict : s'.world.db.verdicts tid = s.world.db.verdicts tid ∨ ∃ passed,
    s'.world.db.verdicts tid = s.world.db.verdicts tid ++ [passed] ∧
      s'.world.db.state? tid = some (if passed then .done else .failed)

/-- What an event of a run may do. -/
def PassesAt (settings : Settings) (c : Config Act PyErr State) : Threads.Event Env Op → Prop
  | .step t env => ∀ tid,
    Passes t c.shared (Config.apply (system settings) (.step t env) c).shared tid
  | ev => (Config.apply (system settings) ev c).shared.world.db = c.shared.world.db

/-- What holds between two actions of a task that came `turns` times into a terminal state. -/
structure Sealed (db : Db) (tid : TaskId) (turns : Nat) : Prop where
  done : ∀ row, db.task? tid = some row → row.state = .done → nonEmpty? row.evaluator ≠ none →
    true ∈ db.verdicts tid
  refused : false ∈ db.verdicts tid → db.state? tid = some .failed
  counted : (db.verdicts tid).length ≤ turns

namespace GateLemmas

open Store StoreLemmas

variable {settings : Settings} {t : ThreadId} {s s' : State} {tid : TaskId}

theorem step_verdict {v v' : View} (h : View.Step t v v') : v'.verdicts = v.verdicts ∨
    ∃ passed, v'.verdicts = v.verdicts ++ [passed] ∧
      v'.row.map Task.state = some (if passed then .done else .failed) := by
  cases h with
  | aside h => cases h <;> exact Or.inl rfl
  | @judge _ row' passed howns hrow hstep hopen hverdict =>
    refine Or.inr ⟨passed, rfl, ?_⟩
    cases passed with
    | true => exact congrArg some hverdict.1
    | false => exact congrArg some hverdict
  | enter | leave => exact Or.inl rfl

/-- With an evaluator there is one way into `DONE`. -/
theorem step_done {v v' : View} (h : View.Step t v v') {row : Task} (hrow : v'.row = some row)
    (hdone : row.state = .done) (hbefore : v.row.map Task.state ≠ some .done) {name : String}
    (hname : nonEmpty? row.evaluator = some name) : v'.verdicts = v.verdicts ++ [true] ∧
      nonEmpty? row.targetHost = none ∧ (v.probe t).passed = some (name, row.id) := by
  have hkept (heq : v'.row = v.row) : False := by
    refine hbefore ?_
    rw [← heq, hrow, Option.map_some, hdone]
  cases h with
  | aside h =>
    cases h with
    | probe => exact (hkept rfl).elim
    | @write row' hmoves =>
      generalize hold : v.row = old at hmoves
      rw [hold] at hbefore
      obtain rfl : row' = some row := hrow
      cases hmoves with
      | keep => exact absurd (congrArg some hdone) hbefore
      | create hnot => exact absurd hdone hnot
      | step hstep hgate =>
        rcases hgate hdone with hold | hnone
        · exact absurd (congrArg some hold) hbefore
        · rw [View.evaluator_of_rowStep hstep, hnone] at hname
          cases hname
  | @judge row₀ row' passed howns hold hstep hopen hverdict =>
    obtain rfl : row' = row := Option.some.inj hrow
    cases passed with
    | false =>
      have hfailed : row'.state = .failed := hverdict
      rw [hfailed] at hdone
      cases hdone
    | true =>
      rw [View.evaluator_of_rowStep hstep] at hname
      obtain ⟨hlocal, hpassed⟩ := hverdict.2 name hname
      have hfixed := hstep.fixed
      exact ⟨rfl, by rw [hfixed]; exact hlocal, by rw [hfixed]; exact hpassed⟩
  | enter | leave => exact (hkept rfl).elim

theorem passes_of_step (h : View.Step t (s.view tid) (s'.view tid)) : Passes t s s' tid := by
  refine ⟨fun row hrow hdone hbefore name hname => ?_, step_verdict h⟩
  obtain ⟨hverdicts, hlocal, hpassed⟩ := step_done h hrow hdone hbefore hname
  exact ⟨hverdicts, hlocal, hpassed.trans (by rw [Table.key_of_get? hrow])⟩

theorem sealed_of_inv (h : (s.view tid).Inv) : Sealed s.world.db tid (s.ledger.turns tid) := by
  refine ⟨h.gated, fun hfalse => ?_, h.counted⟩
  obtain ⟨row, hrow, hfailed⟩ := h.refused hfalse
  have hread : s.world.db.task? tid = some row := hrow
  simp [Db.state?, hread, hfailed]

theorem passesAt_of_holds (c : Config Act PyErr State) (ev : Threads.Event Env Op)
    (h : (contract settings).Holds c) : PassesAt settings c ev := by
  cases ev with
  | spawn op =>
    simp only [PassesAt, Config.apply]
    split <;> rfl
  | restart => rfl
  | step t env =>
    intro tid
    refine passes_of_step ?_
    by_cases hact : ∃ (β : Type) (a : Act β) (k : Except PyErr β → Prog Act PyErr Unit),
        Dict.get? c.threads t = some (.act a k)
    · obtain ⟨β, a, k, hget⟩ := hact
      have hshared : (Config.apply (system settings) (.step t env : Threads.Event Env Op) c).shared =
          ((system settings).exec t a env c.shared).2 := by
        rw [Config.apply_step hget]
        cases k ((system settings).exec t a env c.shared).1 <;> rfl
      rw [hshared]
      exact h.guar hget trivial tid
    · rw [Config.apply_step_none fun a k hget => hact ⟨_, a, k, hget⟩]
      exact .aside (.refl _)

theorem holds_boot : (contract settings).Holds (Config.initial (State.boot .init)) := by
  refine Contract.holds_initial (fun tid => ?_) fun _ _ => trivial
  refine ⟨fun t h => (by cases h), Nat.zero_le _, ?_, ?_⟩
  · intro row hrow
    cases hrow
  · intro hfalse
    cases hfalse

theorem along_permits {events : List (Threads.Event Env Op)}
    (hkept : ∀ tid, .spawn (.deleteTask tid) ∉ events) (c : Config Act PyErr State) :
    Config.Along (system settings)
      ((contract settings).Permits (fun op => ∀ tid, op ≠ .deleteTask tid) True) events c := by
  induction events generalizing c with
  | nil => trivial
  | cons ev events ih =>
    refine ⟨?_, ih (fun tid hmem => hkept tid (List.mem_cons_of_mem _ hmem)) _⟩
    cases ev with
    | spawn op =>
      rintro tid rfl
      exact hkept tid List.mem_cons_self
    | step t env => exact fun _ _ _ _ => trivial
    | restart => trivial

/-- The runs with the ledger are the runs of the process. -/
theorem run_world (events : List (Threads.Event Env Op)) (db : Db) :
    (Config.run (system settings) events (Config.initial (State.boot db))).map State.world =
      Config.run (process settings) events (Config.initial (.boot db)) :=
  Config.run_map (f := State.world) (fun _ _ _ _ _ => rfl) rfl (fun _ _ => rfl) (fun _ => rfl) events _

end GateLemmas

open GateLemmas

/-- A worker reports success, and its retirement runs the evaluator, which passes. -/
def judgedRun : List (Threads.Event Env Op) :=
  [.spawn (.createProject { id := "p", name := "p" })] ++ steps 0 1 ++
  [.spawn (.createTasks "p"
    [{ id := "T", name := "n", spec := "s", evaluator := some "pytest" }])] ++ steps 1 12 ++
  [.spawn .tick] ++ steps 2 20 ++
  [.spawn (.workerPing none { taskId := "T", state := "complete" })] ++
  List.replicate 30 (.step 3
    { clock := ⟨"1", "0"⟩, flag := true, evalResult := ⟨true, .null, "", []⟩ })

end Gate

end Flotilla
