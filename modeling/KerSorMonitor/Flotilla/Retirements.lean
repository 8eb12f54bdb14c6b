import KerSorMonitor.Lib.Protocol
import KerSorMonitor.Flotilla.Programs

/-!
# Retiring a task once (`actuator.retire`)

The observer, the heartbeats, the stop action and the reconciliation retire a task through `retire`,
and any number of them may do so at the same time. `_RETIRING` lets one call in at a time; the
worker row and the task row, which a call reads one after the other, tell it whether an earlier call
has already done the work.

`RetireView` is what these calls move of one task, and `Step` is what each of their actions may do
to it.

Results:
1. `inv_step`: every step keeps the invariant.
2. `retire_safe`: a call makes only such steps, and a call that returns a state has won.
3. `retired_once`: in every run, each effect of the retirement comes about at most once.
-/

namespace Flotilla

open Keyed Threads
open Prog (call)

/-! ## The calls -/

/-- A state that a caller of `retire` may ask for, `STUCK` apart. -/
abbrev FinalState := { state : String // state ∈ finalStates }

/-- A call of `retire`, by its caller. -/
inductive RetireCall
  | observer (wid : Option WorkerId) (terminal : FinalState)
  | heartbeat (terminal : FinalState)
  | stop (wid : Option WorkerId)
  | reconciliation (wid : Option WorkerId) (reason : String) (stopRuntime : Bool)

namespace RetireCall

/-- The worker id that the caller passes. -/
def worker (tid : TaskId) : RetireCall → Program (Option WorkerId)
  | observer wid _ => pure wid
  | heartbeat _ => store (.activeWorkerId tid)
  | stop wid => pure wid
  | reconciliation wid _ _ => pure wid

def terminal : RetireCall → FinalState
  | observer _ state | heartbeat state => state
  | stop _ => ⟨"CANCELLED", by decide⟩
  | reconciliation _ _ _ => ⟨"LOST", by decide⟩

def stopRuntime : RetireCall → Bool
  | observer _ _ | heartbeat _ => true
  | stop _ => false
  | reconciliation _ _ stopRuntime => stopRuntime

/-- What the caller does when the call has returned a state. -/
def report (tid : TaskId) (state : String) : RetireCall → Program Unit
  | observer _ _ | heartbeat _ => recordEvent tid "terminal" [("state", .str state)]
  | stop _ => pure ()
  | reconciliation _ reason _ => recordEvent tid "reconcile_lost" [("reason", .str reason)]

/-- The caller, after the call. -/
def follow (tid : TaskId) (c : RetireCall) : Option String → Program Unit
  | none => pure ()
  | some state => c.report tid state

/-- The call, between what its caller does before and after. A round of the observer and the stop
action end in such a call, with the worker id of the registry. -/
def program (tid : TaskId) (c : RetireCall) : Program Unit := do
  let wid ← c.worker tid
  let result ← retire tid wid (some c.terminal.val) c.stopRuntime
  c.follow tid result

end RetireCall

/-- An action of a call, or the return of `retire` to its caller. -/
inductive RetireAct : Type → Type 1
  | act {β : Type} (a : Act β) : RetireAct β
  | returned (result : Option String) : RetireAct Unit

/-- The call, with the moment at which `retire` returns. -/
def RetireCall.watched (tid : TaskId) (c : RetireCall) : Prog RetireAct PyErr Unit := do
  let wid ← (c.worker tid).embed .act
  let result ← (retire tid wid (some c.terminal.val) c.stopRuntime).embed .act
  call (.returned result)
  (c.follow tid result).embed .act

/-- What runs concurrently: calls of `retire` on one task, and its deletion. -/
inductive RetireOp
  | retire (c : RetireCall)
  | delete

/-! ## What is counted -/

/-- What the calls have done so far. -/
structure RetireTally where
  /-- The thread that holds `_RETIRING` for the task. -/
  owner : Option ThreadId
  /-- The thread that has put the task into a terminal state. -/
  winner : Option ThreadId
  /-- The calls that have returned a state. -/
  returned : Nat
  /-- How often the row of the task came into a terminal state. -/
  terminals : Nat
  /-- The evaluation events that were appended. -/
  evaluations : Nat
  /-- The events of the callers that were appended. -/
  reports : Nat
  /-- How often the end of a worker was written. -/
  ended : WorkerId → Nat
  /-- How often the lease of a worker was released. -/
  released : WorkerId → Nat

/-- Nothing has happened yet. -/
def RetireTally.zero : RetireTally := ⟨none, none, 0, 0, 0, 0, fun _ => 0, fun _ => 0⟩

/-- The process, and what the calls have done in it. -/
structure Retirement where
  world : World
  tally : RetireTally

/-- The types of the events that the callers append. -/
def reportTypes : List String := ["terminal", "reconcile_lost"]

/-- The number of events of a task whose type is among `types`. -/
def Db.countEvents (db : Db) (tid : TaskId) (types : List String) : Nat :=
  db.event.rows.countP fun e => e.taskId = tid && types.contains e.type

/-- The row of the task is in a terminal state in which it was not before. -/
def Db.turned (tid : TaskId) (db db' : Db) : Bool :=
  db'.state? tid ≠ db.state? tid && (db'.state? tid).any TaskState.isTerminal

/-- The end of the worker is not what it was before. -/
def Db.endWritten (wid : WorkerId) (db db' : Db) : Bool :=
  match db.worker? wid, db'.worker? wid with
  | some w, some w' => w'.endedAt ≠ w.endedAt
  | _, _ => false

/-- The action releases the lease of the worker. -/
def Act.releases (wid : WorkerId) : {β : Type} → Act β → Bool
  | _, .releaseId _ _ wid' => wid' = wid
  | _, _ => false

/-- The thread that holds `_RETIRING` for the task after an action of thread `t`. -/
def RetireTally.ownerAfter (tid : TaskId) (t : ThreadId) (o : Option ThreadId) :
    {β : Type} → Act β → Except PyErr β → Option ThreadId
  | _, .beginRetire tid', .ok (some _) => if tid' = tid then some t else o
  | _, .endRetire tid', _ => if tid' = tid then none else o
  | _, _, _ => o

/-- Count what an action of thread `t` has done, which returned `r` and took `db` to `db'`. -/
def RetireTally.note (y : RetireTally) (tid : TaskId) (t : ThreadId) {β : Type} (a : Act β)
    (r : Except PyErr β) (db db' : Db) : RetireTally where
  owner := ownerAfter tid t y.owner a r
  winner := if db.turned tid db' then some t else y.winner
  returned := y.returned
  terminals := y.terminals + (db.turned tid db').toNat
  evaluations :=
    y.evaluations + (db'.countEvents tid ["evaluation"] - db.countEvents tid ["evaluation"])
  reports := y.reports + (db'.countEvents tid reportTypes - db.countEvents tid reportTypes)
  ended wid := y.ended wid + (db.endWritten wid db').toNat
  released wid := y.released wid + (a.releases wid).toNat

namespace Retirement

/-- An action of thread `t`, counted. -/
def exec (settings : Settings) (tid : TaskId) (t : ThreadId) (env : Env) :
    {β : Type} → RetireAct β → Retirement → Except PyErr β × Retirement
  | _, .act a, s =>
    let (r, w) := World.exec settings env a s.world
    (r, ⟨w, s.tally.note tid t a r s.world.db w.db⟩)
  | _, .returned result, s =>
    (.ok (), { s with tally :=
      { s.tally with returned := s.tally.returned + result.isSome.toNat } })

end Retirement

/-- The calls of `retire` on one task, and its deletion, in one process, which may restart. -/
def retirements (settings : Settings) (tid : TaskId) :
    System RetireAct PyErr Retirement Env RetireOp where
  exec t {_} a env s := Retirement.exec settings tid t env a s
  program
    | .retire c => c.watched tid
    | .delete => (store (.deleteTask tid)).embed .act
  finish _ s := s
  restart s := ⟨.boot s.world.db, { s.tally with owner := none }⟩

/-! ## The calls are those of the source -/

namespace RetireCall

theorem heartbeat_program (tid : TaskId) (terminal : FinalState) :
    (heartbeat terminal).program tid = retirePinged tid terminal.val := rfl

theorem reconciliation_program (tid : TaskId) (wid : Option WorkerId) (reason : String)
    (stopRuntime : Bool) :
    (reconciliation wid reason stopRuntime).program tid = markLost tid wid reason stopRuntime := rfl

end RetireCall

/-! ## One task under retirement -/

/-- What the calls move of the task: its row, which workers are active, `_RETIRING`, and the
tally. -/
structure RetireView where
  row : Option TaskState
  active : WorkerId → Bool
  retiring : Prop
  tally : RetireTally

namespace RetireView

/-- The task is gone or in a terminal state. -/
def Closed (v : RetireView) : Prop := ∀ st, v.row = some st → st.isTerminal = true

/-- The thread holds `_RETIRING` for the task. -/
def Owns (t : ThreadId) (v : RetireView) : Prop := v.tally.owner = some t

/-- The thread has won, and its caller has neither been told nor reported it. -/
def Won (t : ThreadId) (v : RetireView) : Prop :=
  v.tally.winner = some t ∧ v.tally.returned = 0 ∧ v.tally.reports = 0

/-- The thread has won, and its caller has not reported it. -/
def Unreported (t : ThreadId) (v : RetireView) : Prop :=
  v.tally.winner = some t ∧ v.tally.reports = 0

/-- What holds between any two actions of the calls. -/
structure Inv (v : RetireView) : Prop where
  owned : ∀ t, v.Owns t → v.retiring
  fresh : v.tally.winner = none → v.tally.returned = 0 ∧ v.tally.terminals = 0 ∧
    v.tally.evaluations = 0 ∧ v.tally.reports = 0
  closed : ∀ t, v.tally.winner = some t → v.Closed
  once : v.tally.returned ≤ 1 ∧ v.tally.terminals ≤ 1 ∧ v.tally.evaluations ≤ 1 ∧
    v.tally.reports ≤ 1
  ended : ∀ wid, v.tally.ended wid ≤ 1 ∧ (v.tally.ended wid = 1 → v.active wid = false)
  released : ∀ wid, v.tally.released wid ≤ 1 ∧
    (v.tally.released wid = 1 → v.Closed ∧ v.active wid = false)

/-- Workers have ended or are gone: `active` and `ended` become `active'` and `ended'`. -/
def Ending (v : RetireView) (active' : WorkerId → Bool) (ended' : WorkerId → Nat) : Prop :=
  ∀ wid, active' wid = v.active wid ∧ ended' wid = v.tally.ended wid ∨
    v.active wid = true ∧ active' wid = false ∧ ended' wid ≤ v.tally.ended wid + 1

/-- What an action of thread `t` may do. -/
inductive Step (t : ThreadId) : RetireView → RetireView → Prop
  | aside (v : RetireView) : Step t v v
  | enter {v : RetireView} : ¬ v.retiring →
      Step t v { v with retiring := True, tally := { v.tally with owner := some t } }
  | leave {v : RetireView} : v.Owns t →
      Step t v { v with retiring := False, tally := { v.tally with owner := none } }
  | commit {v : RetireView} {st st' : TaskState} {active' : WorkerId → Bool}
      {ended' : WorkerId → Nat} {evaluations' : Nat} : v.Owns t → v.row = some st →
      st.isTerminal = false → st'.isTerminal = true → v.Ending active' ended' →
      evaluations' ≤ v.tally.evaluations + 1 →
      Step t v
        { v with
          row := some st'
          active := active'
          tally :=
            { v.tally with
              winner := some t
              terminals := v.tally.terminals + 1
              evaluations := evaluations'
              ended := ended' } }
  | endWorker {v : RetireView} {active' : WorkerId → Bool} {ended' : WorkerId → Nat} :
      v.Ending active' ended' →
      Step t v { v with active := active', tally := { v.tally with ended := ended' } }
  | release {v : RetireView} (wid : WorkerId) : v.Owns t → v.Closed → v.active wid = false →
      v.tally.released wid = 0 →
      Step t v { v with tally := { v.tally with released := setAt v.tally.released wid 1 } }
  | returned {v : RetireView} : v.Won t →
      Step t v { v with tally := { v.tally with returned := 1 } }
  | report {v : RetireView} {reports' : Nat} : v.tally.winner = some t → v.tally.reports = 0 →
      reports' ≤ 1 → Step t v { v with tally := { v.tally with reports := reports' } }
  | delete {v : RetireView} {active' : WorkerId → Bool} : v.Ending active' v.tally.ended →
      Step t v { v with row := none, active := active' }

variable {t t' : ThreadId} {v v' : RetireView}

/-! ### The invariant -/

/-- While the row is in no terminal state, nobody has won and no lease was released. -/
theorem Inv.open (hinv : v.Inv) {st : TaskState} (hrow : v.row = some st)
    (hst : st.isTerminal = false) :
    v.tally.winner = none ∧ ∀ wid, v.tally.released wid = 0 := by
  have hopen : ¬ v.Closed := fun h => by simp [h st hrow] at hst
  refine ⟨?_, fun wid => ?_⟩
  · cases hwin : v.tally.winner with
    | none => rfl
    | some t => exact absurd (hinv.closed t hwin) hopen
  · have hle := (hinv.released wid).1
    have hne : v.tally.released wid ≠ 1 := fun h => hopen ((hinv.released wid).2 h).1
    omega

theorem Ending.inactive {active' : WorkerId → Bool} {ended' : WorkerId → Nat}
    (h : v.Ending active' ended') {wid : WorkerId} (hw : v.active wid = false) :
    active' wid = false := by
  rcases h wid with ⟨heq, -⟩ | ⟨-, hoff, -⟩
  · exact heq.trans hw
  · exact hoff

theorem Ending.once {active' : WorkerId → Bool} {ended' : WorkerId → Nat}
    (h : v.Ending active' ended') (hinv : v.Inv) (wid : WorkerId) :
    ended' wid ≤ 1 ∧ (ended' wid = 1 → active' wid = false) := by
  obtain ⟨hle, himp⟩ := hinv.ended wid
  rcases h wid with ⟨heq, hsame⟩ | ⟨hon, hoff, hnext⟩
  · rw [heq, hsame]
    exact ⟨hle, himp⟩
  · have hne : v.tally.ended wid ≠ 1 := fun h => by simp [himp h] at hon
    exact ⟨by omega, fun _ => hoff⟩

/-- Every step keeps the invariant. -/
theorem inv_step (hinv : v.Inv) (hstep : Step t v v') : v'.Inv := by
  cases hstep with
  | aside => exact hinv
  | enter hfree => exact { hinv with owned := fun _ _ => trivial }
  | leave howns => exact { hinv with owned := fun _ h => (by cases h) }
  | commit howns hrow hst hst' hending hevals =>
    obtain ⟨hwin, hrel⟩ := hinv.open hrow hst
    obtain ⟨hret, hterm, heval, hrep⟩ := hinv.fresh hwin
    exact
      { owned := hinv.owned
        fresh := fun h => by cases h
        closed := by
          rintro _ _ st ⟨⟩
          exact hst'
        once := by
          dsimp only
          omega
        ended := hending.once hinv
        released := fun wid => ⟨(hinv.released wid).1, fun h => by simp [hrel wid] at h⟩ }
  | endWorker hending =>
    exact { hinv with
      ended := hending.once hinv
      released := fun wid => ⟨(hinv.released wid).1, fun h =>
        ⟨((hinv.released wid).2 h).1, hending.inactive ((hinv.released wid).2 h).2⟩⟩ }
  | release wid howns hclosed hoff hzero =>
    refine { hinv with released := fun wid' => ?_ }
    by_cases hwid : wid' = wid
    · subst hwid
      simp only [setAt_same]
      exact ⟨le_refl 1, fun _ => ⟨hclosed, hoff⟩⟩
    · simp only [setAt_of_ne _ _ hwid]
      exact hinv.released wid'
  | returned hwon =>
    obtain ⟨hwin, hret, hrep⟩ := hwon
    refine { hinv with fresh := fun h => ?_, once := ⟨le_refl 1, hinv.once.2⟩ }
    cases hwin.symm.trans h
  | report hwin hrep hone =>
    refine { hinv with
      fresh := fun h => ?_
      once := ⟨hinv.once.1, hinv.once.2.1, hinv.once.2.2.1, hone⟩ }
    cases hwin.symm.trans h
  | delete hending =>
    exact { hinv with
      closed := fun _ _ st h => (by cases h)
      ended := hending.once hinv
      released := fun wid => ⟨(hinv.released wid).1, fun h =>
        ⟨fun st h => (by cases h), hending.inactive ((hinv.released wid).2 h).2⟩⟩ }

/-- The steps of the calls on one task. The end of a thread changes nothing. -/
def protocol : Protocol RetireView where
  inv := Inv
  step := Step
  leave _ v v' := v' = v
  clean _ _ := True
  inv_step := inv_step
  clean_step := fun _ _ _ _ => trivial

/-! ### What the other threads leave alone -/

/-- While `t` holds `_RETIRING`, the others release nothing and leave the row or delete it. -/
theorem Owns.other (h : v.Owns t) (hother : protocol.Other t v v') :
    v'.Owns t ∧ v'.tally.released = v.tally.released ∧ (v'.row = v.row ∨ v'.row = none) := by
  obtain ⟨hinv, t', hne, hstep | hleave⟩ := hother
  · have hnot : ¬ v.Owns t' := fun h' => hne (Option.some.inj (h'.symm.trans h))
    cases hstep with
    | aside | endWorker | returned | report => exact ⟨h, rfl, Or.inl rfl⟩
    | delete => exact ⟨h, rfl, Or.inr rfl⟩
    | enter hfree => exact absurd (hinv.owned t h) hfree
    | leave h' => exact absurd h' hnot
    | commit h' => exact absurd h' hnot
    | release _ h' => exact absurd h' hnot
  · exact hleave.symm ▸ ⟨h, rfl, Or.inl rfl⟩

theorem Closed.other (h : v.Closed) (hother : protocol.Other t v v') : v'.Closed := by
  obtain ⟨hinv, t', hne, hstep | hleave⟩ := hother
  · cases hstep with
    | delete =>
      intro st hrow
      cases hrow
    | commit _ hrow hst => simp [h _ hrow] at hst
    | _ => exact h
  · exact hleave.symm ▸ h

theorem inactive_other {wid : WorkerId} (h : v.active wid = false)
    (hother : protocol.Other t v v') : v'.active wid = false := by
  obtain ⟨hinv, t', hne, hstep | hleave⟩ := hother
  · cases hstep with
    | commit _ _ _ _ hending => exact hending.inactive h
    | endWorker hending => exact hending.inactive h
    | delete hending => exact hending.inactive h
    | _ => exact h
  · exact hleave.symm ▸ h

/-- A thread that has won stays the winner, and only its caller reports it. -/
theorem winner_other (hwin : v.tally.winner = some t) (hother : protocol.Other t v v') :
    v'.tally.winner = some t ∧ v'.tally.returned = v.tally.returned ∧
      v'.tally.reports = v.tally.reports := by
  obtain ⟨hinv, t', hne, hstep | hleave⟩ := hother
  · have hnot : v.tally.winner ≠ some t' := fun h' => hne (Option.some.inj (h'.symm.trans hwin))
    cases hstep with
    | commit _ hrow hst => cases hwin.symm.trans (hinv.open hrow hst).1
    | returned h' => exact absurd h'.1 hnot
    | report h' => exact absurd h' hnot
    | _ => exact ⟨hwin, rfl, rfl⟩
  · exact hleave.symm ▸ ⟨hwin, rfl, rfl⟩

theorem Won.other (h : v.Won t) (hother : protocol.Other t v v') : v'.Won t := by
  obtain ⟨hwin, hret, hrep⟩ := winner_other h.1 hother
  exact ⟨hwin, hret.trans h.2.1, hrep.trans h.2.2⟩

theorem Unreported.other (h : v.Unreported t) (hother : protocol.Other t v v') :
    v'.Unreported t := by
  obtain ⟨hwin, -, hrep⟩ := winner_other h.1 hother
  exact ⟨hwin, hrep.trans h.2⟩

/-! ### What a call knows -/

/-- The call holds `_RETIRING` and has read `worker`: if that worker was active, its lease was not
released yet. -/
structure Seen (t : ThreadId) (wid : Option WorkerId) (worker : Option Worker) (v : RetireView) :
    Prop where
  owns : v.Owns t
  named : ∀ w, worker = some w → wid = some w.id
  leased : ∀ w, worker = some w → w.isActive = true → v.tally.released w.id = 0

/-- It has also read a row of the task, which is in a terminal state or not, as it is now. -/
structure Met (t : ThreadId) (wid : Option WorkerId) (worker : Option Worker) (task : Task)
    (v : RetireView) : Prop extends Seen t wid worker v where
  row : ∀ st, v.row = some st → st.isTerminal = task.state.isTerminal

/-- The lease of the worker may be released. -/
structure Due (t : ThreadId) (worker : Option Worker) (v : RetireView) : Prop where
  owns : v.Owns t
  closed : ∀ w, worker = some w → v.Closed
  ended : ∀ w, worker = some w → v.active w.id = false
  leased : ∀ w, worker = some w → v.tally.released w.id = 0

variable {wid : Option WorkerId} {worker : Option Worker} {task : Task}

theorem Seen.other (h : v.Seen t wid worker) (hother : protocol.Other t v v') :
    v'.Seen t wid worker := by
  obtain ⟨howns, hrel, -⟩ := h.owns.other hother
  exact ⟨howns, h.named, fun w hw hon => by rw [hrel]; exact h.leased w hw hon⟩

theorem Met.other (h : v.Met t wid worker task) (hother : protocol.Other t v v') :
    v'.Met t wid worker task := by
  refine ⟨h.toSeen.other hother, fun st hst => ?_⟩
  rcases (h.owns.other hother).2.2 with hrow | hgone
  · exact h.row st (hrow.symm.trans hst)
  · cases hgone.symm.trans hst

theorem Due.other (h : v.Due t worker) (hother : protocol.Other t v v') : v'.Due t worker := by
  obtain ⟨howns, hrel, -⟩ := h.owns.other hother
  exact ⟨howns, fun w hw => (h.closed w hw).other hother,
    fun w hw => inactive_other (h.ended w hw) hother, fun w hw => by rw [hrel]; exact h.leased w hw⟩

end RetireView

namespace Retirement

/-- The part of the state that the calls are about. -/
def view (tid : TaskId) (s : Retirement) (_ : Unit) : RetireView where
  row := s.world.db.state? tid
  active wid := (s.world.db.worker? wid).any Worker.isActive
  retiring := tid ∈ s.world.retiring
  tally := s.tally

/-- Every action of the calls and of the deletion makes a step, and nothing is assumed of what the
outside answers. -/
def contract (settings : Settings) (tid : TaskId) : Contract (retirements settings tid) :=
  RetireView.protocol.contract (retirements settings tid) (view tid) (fun _ _ _ _ _ => True)
    fun _ _ _ _ => True

/-- The same for the actions of one call. -/
def calls (settings : Settings) (tid : TaskId) :
    Contract ((retirements settings tid).restrict .act) := (contract settings tid).restrict .act

end Retirement

/-- The types of the events that are counted. -/
def countedTypes : List String := "evaluation" :: reportTypes

/-- The actions that leave the row of a task, its workers, `_RETIRING` and the tally alone. -/
def Act.Aside : {β : Type} → Act β → Prop
  | _, .store (.appendEvent e) => e.type ∉ countedTypes
  | _, .stop _ _ => True
  | _, .unregister _ _ => True
  | _, a => a.Quiet

theorem Act.Silent.aside {β : Type} (a : Act β) (h : a.Silent) : a.Aside := by
  cases a with
  | store q =>
    cases q with
    | appendEvent => exact h.elim
    | _ => exact h
  | stop | unregister => trivial
  | publish => exact h.elim
  | _ => exact h

namespace RetireLemmas

open Store StoreLemmas TransactionLemmas QuietLemmas

variable {settings : Settings} {tid : TaskId} {t : ThreadId} {env : Env} {β : Type}

/-! ## What the actions do to the tally -/

theorem countEvents_of_event {db db' : Db} (h : db'.event = db.event) (types : List String) :
    db'.countEvents tid types = db.countEvents tid types := by
  unfold Db.countEvents
  rw [h]

/-- An appended event is counted once; the rows that the retention drops are not counted. -/
theorem countEvents_appendEvent {types : List String} (hstatus : "status" ∉ types) {e : Event}
    {db db' : Db} {r : Except PyErr Unit} (h : appendEvent settings e db = (r, db')) :
    db'.countEvents tid types = db.countEvents tid types ∨
    (e.taskId = tid ∧ e.type ∈ types) ∧
      db'.countEvents tid types = db.countEvents tid types + 1 := by
  rcases appendEvent_cases h with ⟨rfl, -⟩ | ⟨-, -, -, -, dropped, hdropped, hrows⟩
  · exact Or.inl rfl
  · have hcount : db'.countEvents tid types =
        (db.event.rows ++ [EventRow.mk e (db.eventSeq + 1)]).countP
          fun x => x.taskId = tid && types.contains x.type := by
      unfold Db.countEvents
      rw [hrows, List.countP_filter]
      refine List.countP_congr fun x _ => ?_
      cases hdrop : dropped x with
      | false => simp
      | true =>
        have hnot : x.type ∉ types := by rw [(hdropped x hdrop).1]; exact hstatus
        simp [hnot]
    rw [List.countP_append, List.countP_singleton] at hcount
    by_cases hmatch : e.taskId = tid ∧ e.type ∈ types
    · exact Or.inr ⟨hmatch, hcount.trans (by simp [Db.countEvents, hmatch])⟩
    · refine Or.inl (hcount.trans ?_)
      simp only [Db.countEvents]
      rw [if_neg (by simpa using hmatch), Nat.add_zero]

/-- A silent transaction appends nothing. -/
theorem event_of_silent {α : Type} {q : Transaction α} (hq : (Act.store q).Silent) {clock : Clock}
    {db db' : Db} {r : Except PyErr α} (h : q.exec settings clock db = (r, db')) :
    db'.event = db.event := by
  cases q with
  | createProject p =>
    cases h
    exact Db.insertProject_event db p
  | createHost host =>
    simp only [Transaction.exec, createHost, connection] at h
    cases hins : db.insertHost host with
    | error e =>
      simp only [hins, Prod.mk.injEq] at h
      rw [← h.2]
    | ok db₁ =>
      simp only [hins, Prod.mk.injEq] at h
      rw [← h.2]
      exact (Db.insertHost_eq_ok hins).2.2
  | createTasks | setTaskState | claimQueuedTasks | releaseTaskClaim | markStaleDispatchingLost
  | activateWorker | finishWorker | deleteTask | createWorker | endWorker | appendEvent =>
    exact hq.elim
  | _ =>
    cases h
    rfl

/-- What two databases have to agree in, for the view of the task to be the same. -/
structure SameRows (tid : TaskId) (db db' : Db) : Prop where
  row : db'.state? tid = db.state? tid
  worker : ∀ wid, (db'.worker? wid).map Worker.endedAt = (db.worker? wid).map Worker.endedAt
  evaluations : db'.countEvents tid ["evaluation"] = db.countEvents tid ["evaluation"]
  reports : db'.countEvents tid reportTypes = db.countEvents tid reportTypes

theorem sameRows_refl (tid : TaskId) (db : Db) : SameRows tid db db := ⟨rfl, fun _ => rfl, rfl, rfl⟩

/-- Whether a worker is active can be read off its end. -/
theorem any_isActive_eq (o : Option Worker) :
    o.any Worker.isActive = (o.map Worker.endedAt).any Option.isNone := by
  cases o <;> rfl

theorem endWritten_eq_false {db db' : Db} {wid : WorkerId}
    (h : (db'.worker? wid).map Worker.endedAt = (db.worker? wid).map Worker.endedAt) :
    db.endWritten wid db' = false := by
  unfold Db.endWritten
  cases hw : db.worker? wid with
  | none => rfl
  | some w =>
    cases hw' : db'.worker? wid with
    | none => rfl
    | some w' =>
      rw [hw, hw'] at h
      simpa using h

theorem turned_eq_false {db db' : Db} (h : db'.state? tid = db.state? tid) :
    db.turned tid db' = false := by
  simp [Db.turned, h]

/-- An action that changes none of this leaves the tally as it was. -/
theorem note_of_sameRows {db db' : Db} (h : SameRows tid db db') (y : RetireTally) {a : Act β}
    {r : Except PyErr β} (howner : RetireTally.ownerAfter tid t y.owner a r = y.owner)
    (hreleases : ∀ wid, a.releases wid = false) : y.note tid t a r db db' = y := by
  unfold RetireTally.note
  rw [howner, turned_eq_false h.row, h.evaluations, h.reports]
  simp only [endWritten_eq_false (h.worker _), hreleases]
  simp

theorem sameRows_of_store {q : Transaction β} (ha : (Act.store q).Aside) {clock : Clock}
    {db db' : Db} {r : Except PyErr β} (h : q.exec settings clock db = (r, db')) :
    SameRows tid db db' := by
  have hq : q.Quiet := by
    cases q with
    | appendEvent => trivial
    | _ => exact ha
  obtain ⟨htask, hworker⟩ := db_of_quiet hq h
  have hcount : ∀ types, types ⊆ countedTypes →
      db'.countEvents tid types = db.countEvents tid types := by
    intro types hsub
    cases q with
    | appendEvent e =>
      have hstatus : "status" ∉ types := fun h => absurd (hsub h) (by decide)
      exact (countEvents_appendEvent hstatus h).resolve_right fun h => ha (hsub h.1.2)
    | _ =>
      refine countEvents_of_event (event_of_silent ?_ h) types
      exact ha
  refine ⟨?_, fun wid => ?_, hcount _ (by decide), hcount _ (by decide)⟩
  · simp only [Db.state?, Db.task?, htask]
  · rcases hworker wid with hsame | ⟨x, x', hx, hx', hbut⟩
    · exact congrArg _ hsame
    · rw [hx, hx', hbut]
      rfl

/-- An aside leaves the rows alone. -/
theorem sameRows_of_aside (settings : Settings) (env : Env) {a : Act β} (ha : a.Aside)
    (tid : TaskId) (w : World) : SameRows tid w.db (World.exec settings env a w).2.db := by
  by_cases hstore : ∃ q : Transaction β, a = .store q
  · obtain ⟨q, rfl⟩ := hstore
    cases hraise : env.raises with
    | some e =>
      rw [Effects.exec_store_raised q hraise]
      exact sameRows_refl tid w.db
    | none =>
      rw [Effects.exec_store_done q hraise]
      exact sameRows_of_store ha (Prod.ext rfl rfl)
  · rw [Effects.exec_db fun q hq => hstore ⟨q, hq⟩]
    exact sameRows_refl tid w.db

/-- An action of a call, and what is counted of it. -/
theorem act_cases {a : Act β} {s s' : Retirement} {r : Except PyErr β}
    (h : Retirement.exec settings tid t env (.act a) s = (r, s')) :
    ∃ w', World.exec settings env a s.world = (r, w') ∧
      s' = ⟨w', s.tally.note tid t a r s.world.db w'.db⟩ := by
  have hr : r = (World.exec settings env a s.world).1 := (congrArg Prod.fst h).symm
  have hs : s' = ⟨(World.exec settings env a s.world).2, s.tally.note tid t a
      (World.exec settings env a s.world).1 s.world.db (World.exec settings env a s.world).2.db⟩ :=
    (congrArg Prod.snd h).symm
  exact ⟨_, Prod.ext hr.symm rfl, by rw [hs, hr]⟩

/-- An aside leaves the view of the task as it was. -/
theorem view_of_aside {a : Act β} (ha : a.Aside) {s s' : Retirement} {r : Except PyErr β}
    (h : Retirement.exec settings tid t env (.act a) s = (r, s')) : s'.view tid = s.view tid := by
  obtain ⟨w', hx, rfl⟩ := act_cases h
  have hrows : SameRows tid s.world.db w'.db := by
    have hrows := sameRows_of_aside settings env ha tid s.world
    rwa [hx] at hrows
  have hretiring : w'.retiring = s.world.retiring := by
    have hkeeps : Effects.KeepsRetiring a := by
      cases a with
      | beginRetire | endRetire => exact ha.elim
      | _ => trivial
    have hretiring : (World.exec settings env a s.world).2.retiring = s.world.retiring :=
      Effects.exec_retiring hkeeps s.world
    rwa [hx] at hretiring
  funext u
  simp only [Retirement.view, RetireView.mk.injEq]
  refine ⟨hrows.row, ?_, by rw [hretiring], note_of_sameRows hrows s.tally ?_ ?_⟩
  · funext wid
    rw [any_isActive_eq, any_isActive_eq, hrows.worker]
  · cases a with
    | beginRetire | endRetire => exact ha.elim
    | _ => rfl
  · intro wid
    cases a with
    | releaseId => exact ha.elim
    | _ => rfl

/-! ## What the actions do to the view -/

section

variable {s s' : Retirement}

/-- A call is let in, or the task is under retirement already. -/
theorem beginRetire_step {r : Except PyErr (Option (Option WorkerHandle))}
    (h : Retirement.exec settings tid t env (.act (.beginRetire tid)) s = (r, s')) :
    (r = .ok none ∧ s'.view tid = s.view tid) ∨
    (∃ handle, r = .ok (some handle)) ∧ RetireView.Step t (s.view tid ()) (s'.view tid ()) ∧
      (s'.view tid ()).Owns t := by
  obtain ⟨w', hx, rfl⟩ := act_cases h
  simp only [World.exec] at hx
  split at hx
  · cases hx
    have hnote : s.tally.note tid t (.beginRetire tid) (.ok none) s.world.db s.world.db = s.tally :=
      note_of_sameRows (sameRows_refl tid _) s.tally rfl fun _ => rfl
    exact Or.inl ⟨rfl, by rw [hnote]⟩
  · next hfree =>
    cases hx
    refine Or.inr ⟨⟨_, rfl⟩, ?_, ?_⟩
    · have hstep := RetireView.Step.enter (t := t) (v := s.view tid ())
        (by simpa [Retirement.view] using hfree)
      convert hstep using 1
      simp [Retirement.view, RetireTally.note, RetireTally.ownerAfter, turned_eq_false,
        endWritten_eq_false, Act.releases]
    · simp [RetireView.Owns, Retirement.view, RetireTally.note, RetireTally.ownerAfter]

/-- The end of a retirement. -/
theorem endRetire_step {r : Except PyErr Unit} (howns : (s.view tid ()).Owns t)
    (h : Retirement.exec settings tid t env (.act (.endRetire tid)) s = (r, s')) :
    r = .ok () ∧ RetireView.Step t (s.view tid ()) (s'.view tid ()) ∧
      ((s.view tid ()).Won t → (s'.view tid ()).Won t) := by
  obtain ⟨w', hx, rfl⟩ := act_cases h
  cases hx
  have hview : Retirement.view tid ⟨{ s.world with
        retiring := s.world.retiring.filter (· ≠ tid) },
      s.tally.note tid t (.endRetire tid) (.ok ()) s.world.db s.world.db⟩ () =
      { s.view tid () with
        retiring := False
        tally := { s.tally with owner := none } } := by
    simp [Retirement.view, RetireTally.note, RetireTally.ownerAfter, turned_eq_false,
        endWritten_eq_false, Act.releases]
  rw [hview]
  exact ⟨rfl, .leave howns, id⟩

/-- A transaction fails without an effect, or commits. -/
theorem store_cases {q : Transaction β} {r : Except PyErr β}
    (h : Retirement.exec settings tid t env (.act (.store q)) s = (r, s')) :
    (∃ e, r = .error e ∧ s'.view tid = s.view tid) ∨
    ∃ db', q.exec settings env.clock s.world.db = (r, db') ∧
      s' = ⟨{ s.world with db := db' }, s.tally.note tid t (.store q) r s.world.db db'⟩ := by
  obtain ⟨w', hx, rfl⟩ := act_cases h
  cases hraise : env.raises with
  | some e =>
    rw [Effects.exec_store_raised q hraise] at hx
    cases hx
    have hnote : s.tally.note tid t (.store q) (.error ⟨.operationalError, e.msg⟩) s.world.db
        s.world.db = s.tally := note_of_sameRows (sameRows_refl tid _) s.tally rfl fun _ => rfl
    exact Or.inl ⟨_, rfl, by rw [hnote]⟩
  | none =>
    rw [Effects.exec_store_done q hraise] at hx
    cases hx
    exact Or.inr ⟨_, rfl, rfl⟩

/-- What a transaction that is rolled back or writes nothing leaves of the view. -/
theorem view_unchanged {q : Transaction β} {r : Except PyErr β} :
    Retirement.view tid ⟨s.world, s.tally.note tid t (.store q) r s.world.db s.world.db⟩ =
      s.view tid := by
  rw [note_of_sameRows (sameRows_refl tid _) s.tally rfl fun _ => rfl]

/-- Ending a worker, seen from any worker. -/
theorem worker_endWorkerOpt (db : Db) (wid : Option WorkerId) (now : String) (w : WorkerId) :
    let db' := Store.endWorkerOpt db wid now
    ((db'.worker? w).any Worker.isActive = (db.worker? w).any Worker.isActive ∧
        db.endWritten w db' = false ∨
      (db.worker? w).any Worker.isActive = true ∧ (db'.worker? w).any Worker.isActive = false) ∧
    (wid = some w → (db'.worker? w).any Worker.isActive = false) := by
  intro db'
  cases wid with
  | none =>
    refine ⟨Or.inl ⟨rfl, endWritten_eq_false rfl⟩, fun h => by cases h⟩
  | some wid =>
    have hget : db'.worker? w = (db.worker? w).map fun x =>
        if x.id = wid && x.isActive then { x with endedAt := some now } else x :=
      Db.worker?_endWorkerRow db wid now w
    cases hw : db.worker? w with
    | none =>
      rw [hw, Option.map_none] at hget
      exact ⟨Or.inl ⟨by rw [hget], endWritten_eq_false (by rw [hget, hw])⟩, fun _ => by rw [hget]; rfl⟩
    | some x =>
      rw [hw, Option.map_some] at hget
      have hid : x.id = w := Table.key_of_get? hw
      by_cases hx : (x.id = wid && x.isActive) = true
      · rw [if_pos hx] at hget
        have hoff : (db'.worker? w).any Worker.isActive = false := by rw [hget]; rfl
        exact ⟨Or.inr ⟨(Bool.and_eq_true_iff.mp hx).2, hoff⟩, fun _ => hoff⟩
      · rw [if_neg hx] at hget
        refine ⟨Or.inl ⟨by rw [hget], endWritten_eq_false (by rw [hget, hw])⟩, ?_⟩
        rintro ⟨⟩
        rw [hget]
        simpa [hid] using hx

/-- The same as an `Ending` of the view. -/
theorem ending_endWorkerOpt (tid : TaskId) (s : Retirement) (wid : Option WorkerId) (now : String) :
    (s.view tid ()).Ending
      (fun w => ((Store.endWorkerOpt s.world.db wid now).worker? w).any Worker.isActive)
      fun w => s.tally.ended w +
        (s.world.db.endWritten w (Store.endWorkerOpt s.world.db wid now)).toNat := by
  intro w
  rcases (worker_endWorkerOpt s.world.db wid now w).1 with ⟨hsame, hno⟩ | ⟨hon, hoff⟩
  · refine Or.inl ⟨hsame, ?_⟩
    dsimp only
    rw [hno]
    rfl
  · exact Or.inr ⟨hon, hoff, Nat.add_le_add_left (Bool.toNat_le _) _⟩

/-- `end_worker`. -/
theorem endWorker_step {wid : WorkerId} {r : Except PyErr Unit}
    (h : Retirement.exec settings tid t env (.act (.store (.endWorker wid))) s = (r, s')) :
    RetireView.Step t (s.view tid ()) (s'.view tid ()) ∧
      (s'.view tid ()).row = s.world.db.state? tid ∧
      (s'.view tid ()).tally.owner = s.tally.owner ∧
      (s'.view tid ()).tally.released = s.tally.released ∧
      (r = .ok () → (s'.view tid ()).active wid = false) := by
  rcases store_cases h with ⟨e, rfl, hview⟩ | ⟨db', hexec, rfl⟩
  · rw [hview]
    exact ⟨.aside _, rfl, rfl, rfl, fun h => by cases h⟩
  · cases hexec
    have hnote : s.tally.note tid t (.store (.endWorker wid)) (.ok ()) s.world.db
        (s.world.db.endWorkerRow wid env.clock.now) =
        { s.tally with ended := fun w => s.tally.ended w +
            (s.world.db.endWritten w (s.world.db.endWorkerRow wid env.clock.now)).toNat } := by
      have hturned : s.world.db.turned tid (s.world.db.endWorkerRow wid env.clock.now) = false :=
        turned_eq_false rfl
      simp [RetireTally.note, RetireTally.ownerAfter, Act.releases, hturned, Db.countEvents]
    refine ⟨?_, rfl, rfl, ?_, fun _ => (worker_endWorkerOpt _ (some wid) _ wid).2 rfl⟩
    · have hstep := RetireView.Step.endWorker (t := t)
        (ending_endWorkerOpt tid s (some wid) env.clock.now)
      simp only [Retirement.view, hnote]
      exact hstep
    · simp only [Retirement.view, hnote]

theorem countEvents_eq_map (db : Db) (types : List String) :
    db.countEvents tid types = (db.event.rows.map EventRow.toEvent).countP
      fun e => e.taskId = tid && types.contains e.type := by
  rw [List.countP_map]
  rfl

/-- `finish_worker` appends its event and no other. -/
theorem countEvents_finished {db db' : Db} {event : Option Event} {types : List String}
    (h : db'.event.rows.map EventRow.toEvent =
      db.event.rows.map EventRow.toEvent ++ event.toList) :
    db'.countEvents tid types ≤ db.countEvents tid types + 1 ∧
      ((∀ e, event = some e → e.type ∉ types) →
        db'.countEvents tid types = db.countEvents tid types) := by
  rw [countEvents_eq_map, countEvents_eq_map, h, List.countP_append]
  cases event with
  | none => simp
  | some e =>
    refine ⟨Nat.add_le_add_left List.countP_le_length _, fun hnone => ?_⟩
    simp [hnone e rfl]

/-- What `finish_worker` does under a retirement of a task that has not ended: nothing, or it wins,
ends the task and its worker, and no lease was released before. -/
theorem finishWorker_step {wid : Option WorkerId} {target : String} {event : Option Event}
    {r : Except PyErr Bool} (hinv : (s.view tid ()).Inv) (howns : (s.view tid ()).Owns t)
    (hopen : ∀ st, (s.view tid ()).row = some st → st.isTerminal = false)
    (htarget : target ∈ finalStates) (hevent : ∀ e, event = some e → e.type = "evaluation")
    (h : Retirement.exec settings tid t env (.act (.store (.finishWorker tid wid target event))) s =
      (r, s')) :
    RetireView.Step t (s.view tid ()) (s'.view tid ()) ∧ (s'.view tid ()).Owns t ∧
      (r = .ok true → (s'.view tid ()).Won t ∧ (s'.view tid ()).Closed ∧
        (∀ w, (s'.view tid ()).tally.released w = 0) ∧
        ∀ w, wid = some w → (s'.view tid ()).active w = false) := by
  rcases store_cases h with ⟨e, rfl, hview⟩ | ⟨db', hexec, rfl⟩
  · rw [hview]
    exact ⟨.aside _, howns, fun h => by cases h⟩
  · rcases finishWorker_cases hexec with ⟨rfl, hr⟩ |
      ⟨row, st, hrow, htr, rfl, hworker, hrows, htask⟩
    · rw [view_unchanged]
      refine ⟨.aside _, howns, ?_⟩
      rintro rfl
      rcases hr with ⟨hr, -⟩ | ⟨e, hr⟩ <;> cases hr
    · have hbefore : s.world.db.state? tid = some row.state := by simp [Db.state?, hrow]
      have hlive : row.state.isTerminal = false := hopen row.state hbefore
      have hfinal : st.isTerminal = true := by
        have hname := TaskState.name_of_ofName? (transition_eq_ok htr).1
        subst hname
        revert htarget
        cases st <;> decide
      have hstate : db'.state? tid = some st := by
        simp [Db.state?, htask]
      have hturned : s.world.db.turned tid db' = true := by
        have hne : st ≠ row.state := fun h => by rw [h, hlive] at hfinal; cases hfinal
        simp [Db.turned, hstate, hbefore, hne, hfinal]
      have hreports : db'.countEvents tid reportTypes =
          s.world.db.countEvents tid reportTypes :=
        (countEvents_finished hrows).2 fun e he => by rw [hevent e he]; decide
      have hended : ∀ w, s.world.db.endWritten w db' =
          s.world.db.endWritten w (Store.endWorkerOpt s.world.db wid env.clock.now) := by
        intro w
        simp only [Db.endWritten, Db.worker?, hworker]
      obtain ⟨hwin, hreleased⟩ := hinv.open hbefore hlive
      obtain ⟨hret, -, heval, hrep⟩ := hinv.fresh hwin
      have hview : Retirement.view tid ⟨{ s.world with db := db' },
          s.tally.note tid t (.store (.finishWorker tid wid target event)) (.ok true)
            s.world.db db'⟩ () =
          { s.view tid () with
            row := some st
            active := fun w => ((Store.endWorkerOpt s.world.db wid env.clock.now).worker? w).any
              Worker.isActive
            tally :=
              { s.tally with
                winner := some t
                terminals := s.tally.terminals + 1
                evaluations := s.tally.evaluations +
                  (db'.countEvents tid ["evaluation"] - s.world.db.countEvents tid ["evaluation"])
                ended := fun w => s.tally.ended w + (s.world.db.endWritten w
                  (Store.endWorkerOpt s.world.db wid env.clock.now)).toNat } } := by
        simp only [Retirement.view, RetireTally.note, RetireTally.ownerAfter, Act.releases, hstate,
          hturned, hreports, hended, ↓reduceIte, Bool.toNat_true, Bool.toNat_false, Nat.sub_self,
          Nat.add_zero, Db.worker?, hworker]
      rw [hview]
      refine ⟨.commit howns hbefore hlive hfinal
        (ending_endWorkerOpt tid s wid _) ?_, howns, fun _ => ⟨⟨rfl, hret, hrep⟩, ?_, hreleased, ?_⟩⟩
      · have hle : db'.countEvents tid ["evaluation"] ≤
            s.world.db.countEvents tid ["evaluation"] + 1 := (countEvents_finished hrows).1
        have hsame : (s.view tid ()).tally.evaluations = s.tally.evaluations := rfl
        omega
      · rintro _ ⟨⟩
        exact hfinal
      · rintro w rfl
        exact (worker_endWorkerOpt _ (some w) _ w).2 rfl

/-- `release_id` on behalf of a worker, whether it raises or not. -/
theorem releaseId_step {kind lockId : String} {wid : WorkerId} {r : Except PyErr Unit}
    (howns : (s.view tid ()).Owns t) (hclosed : (s.view tid ()).Closed)
    (hoff : (s.view tid ()).active wid = false) (hzero : (s.view tid ()).tally.released wid = 0)
    (h : Retirement.exec settings tid t env (.act (.releaseId kind lockId wid)) s = (r, s')) :
    RetireView.Step t (s.view tid ()) (s'.view tid ()) ∧ (s'.view tid ()).Owns t ∧
      ((s.view tid ()).Won t → (s'.view tid ()).Won t) := by
  obtain ⟨w', hx, rfl⟩ := act_cases h
  have hdb : w'.db = s.world.db := by
    have hdb : (World.exec settings env (.releaseId kind lockId wid) s.world).2.db =
        s.world.db := Effects.exec_db (fun q hq => by cases hq) s.world
    rwa [hx] at hdb
  have hretiring : w'.retiring = s.world.retiring := by
    simp only [World.exec, World.releaseId, Env.outside] at hx
    repeat' split at hx
    all_goals
      cases hx
      rfl
  have hreleased : ∀ w, s.tally.released w +
      ((Act.releaseId kind lockId wid).releases w).toNat = setAt s.tally.released wid 1 w := by
    intro w
    by_cases hw : w = wid
    · subst hw
      have hzero' : s.tally.released w = 0 := hzero
      simp [Act.releases, hzero']
    · have hw' : ¬ wid = w := fun h => hw h.symm
      simp [Act.releases, setAt_of_ne _ _ hw, hw']
  have hview : Retirement.view tid ⟨w', s.tally.note tid t (.releaseId kind lockId wid) r
        s.world.db w'.db⟩ () =
      { s.view tid () with
        tally := { s.tally with released := setAt s.tally.released wid 1 } } := by
    simp [Retirement.view, RetireTally.note, RetireTally.ownerAfter, hdb, hretiring,
      turned_eq_false, endWritten_eq_false, hreleased]
  rw [hview]
  exact ⟨.release wid howns hclosed hoff hzero, howns, id⟩

/-- The caller of the winner is told. -/
theorem returned_step {result : Option String} {r : Except PyErr Unit}
    (hwon : ∀ state, result = some state → (s.view tid ()).Won t)
    (h : Retirement.exec settings tid t env (.returned result) s = (r, s')) :
    RetireView.Step t (s.view tid ()) (s'.view tid ()) ∧
      ((s.view tid ()).Won t → (s'.view tid ()).Unreported t) := by
  cases h
  cases result with
  | none => exact ⟨.aside _, fun hwon => ⟨hwon.1, hwon.2.2⟩⟩
  | some state =>
    have hstep := RetireView.Step.returned (hwon state rfl)
    have hzero : s.tally.returned = 0 := (hwon state rfl).2.1
    refine ⟨?_, fun hwon => ⟨hwon.1, hwon.2.2⟩⟩
    simpa [Retirement.view, hzero] using hstep

/-- The caller of the winner reports it. -/
theorem report_step {e : Event} {r : Except PyErr Unit} (he : e.type ∈ reportTypes)
    (hwon : (s.view tid ()).Unreported t)
    (h : Retirement.exec settings tid t env (.act (.store (.appendEvent e))) s = (r, s')) :
    RetireView.Step t (s.view tid ()) (s'.view tid ()) := by
  rcases store_cases h with ⟨err, rfl, hview⟩ | ⟨db', hexec, rfl⟩
  · rw [hview]
    exact .aside _
  · have hkeep : db'.task = s.world.db.task ∧ db'.worker = s.world.db.worker := by
      rcases appendEvent_cases hexec with ⟨rfl, -⟩ | ⟨-, -, htask, hworker, -⟩
      · exact ⟨rfl, rfl⟩
      · exact ⟨htask, hworker⟩
    have hstate : db'.state? tid = s.world.db.state? tid := by
      simp only [Db.state?, Db.task?, hkeep.1]
    have hworker : ∀ w, db'.worker? w = s.world.db.worker? w := fun w => by
      simp only [Db.worker?, hkeep.2]
    have heval : db'.countEvents tid ["evaluation"] =
        s.world.db.countEvents tid ["evaluation"] :=
      (countEvents_appendEvent (by decide) hexec).resolve_right fun h => by
        have hother := h.1.2
        simp only [List.mem_singleton] at hother
        rw [hother] at he
        revert he
        decide
    have hone : s.tally.reports +
        (db'.countEvents tid reportTypes - s.world.db.countEvents tid reportTypes) ≤ 1 := by
      have hzero : s.tally.reports = 0 := hwon.2
      have hcount : db'.countEvents tid reportTypes ≤
          s.world.db.countEvents tid reportTypes + 1 := by
        have hstatus : "status" ∉ reportTypes := by decide
        rcases countEvents_appendEvent hstatus hexec with hsame | ⟨-, hnext⟩
        · exact hsame.le.trans (Nat.le_succ _)
        · exact hnext.le
      omega
    have hview : Retirement.view tid ⟨{ s.world with db := db' },
          s.tally.note tid t (.store (.appendEvent e)) r s.world.db db'⟩ () =
        { s.view tid () with tally := { s.tally with reports := s.tally.reports +
            (db'.countEvents tid reportTypes - s.world.db.countEvents tid reportTypes) } } := by
      simp [Retirement.view, RetireTally.note, RetireTally.ownerAfter, Act.releases, hstate,
        hworker, heval, turned_eq_false, endWritten_eq_false]
    rw [hview]
    exact .report hwon.1 hwon.2 hone

/-- `delete_task`. -/
theorem deleteTask_step {r : Except PyErr Unit}
    (h : Retirement.exec settings tid t env (.act (.store (.deleteTask tid))) s = (r, s')) :
    RetireView.Step t (s.view tid ()) (s'.view tid ()) := by
  rcases store_cases h with ⟨e, rfl, hview⟩ | ⟨db', hexec, rfl⟩
  · rw [hview]
    exact .aside _
  · cases hexec
    have hworker := Db.worker?_deleteTaskRows s.world.db tid
    have hended : ∀ w, s.world.db.endWritten w (s.world.db.deleteTaskRows tid) = false := by
      intro w
      unfold Db.endWritten
      rw [hworker w]
      cases hw : s.world.db.worker? w with
      | none => rfl
      | some x =>
        by_cases hx : x.taskId = tid <;> simp [Option.filter, hx]
    have hgone : (s.world.db.deleteTaskRows tid).state? tid = none := by
      simp [Db.state?, Db.task?_deleteTaskRows]
    have hcount : ∀ types, (s.world.db.deleteTaskRows tid).countEvents tid types = 0 := by
      intro types
      refine List.countP_eq_zero.mpr fun e he => ?_
      have hne := (Table.mem_rows_deleteWhere.mp he).2
      simp only [decide_eq_false_iff_not] at hne
      simp [hne]
    have hview : Retirement.view tid ⟨{ s.world with db := s.world.db.deleteTaskRows tid },
          s.tally.note tid t (.store (.deleteTask tid)) (.ok ()) s.world.db
            (s.world.db.deleteTaskRows tid)⟩ () =
        { s.view tid () with
          row := none
          active := fun w => ((s.world.db.deleteTaskRows tid).worker? w).any Worker.isActive } := by
      simp [Retirement.view, RetireTally.note, RetireTally.ownerAfter, Act.releases, hgone, hcount,
        hended, Db.turned]
    rw [hview]
    refine .delete fun w => ?_
    rw [hworker w]
    cases hw : s.world.db.worker? w with
    | none => exact Or.inl ⟨by simp [Retirement.view, hw], rfl⟩
    | some x =>
      by_cases hx : x.taskId = tid
      · cases hon : x.isActive with
        | true =>
          exact Or.inr ⟨by simp [Retirement.view, hw, hon], by simp [Option.filter, hx],
            Nat.le_succ _⟩
        | false => exact Or.inl ⟨by simp [Retirement.view, hw, hon, Option.filter, hx], rfl⟩
      · exact Or.inl ⟨by simp [Retirement.view, hw, Option.filter, hx], rfl⟩

end

/-! ## The programs -/

/-- What the others keep of the view. -/
theorem stable_view {Q : RetireView → Prop}
    (h : ∀ v v', Q v → RetireView.protocol.Other t v v' → Q v') :
    Stable (Retirement.calls settings tid) t fun s => Q (s.view tid ()) :=
  fun _ _ hQ hrely => (hrely ()).keeps (fun v v' hother hq => h v v' hq hother) hQ

/-- One action of a call, from what the others keep. -/
theorem act_safe {P : RetireView → Prop}
    (hother : ∀ v v', P v → RetireView.protocol.Other t v v' → P v') {a : Act β}
    {Q : Except PyErr β → Retirement → Prop} {s : Retirement} (h : P (s.view tid ()))
    (hstep : ∀ s₁, (s₁.view tid ()).Inv → P (s₁.view tid ()) → ∀ env r s₂,
      Retirement.exec settings tid t env (.act a) s₁ = (r, s₂) →
      RetireView.Step t (s₁.view tid ()) (s₂.view tid ()) ∧ Q r s₂) :
    Safe (Retirement.calls settings tid) t (call a) Q s := by
  refine Safe.call fun s₁ hrely hinv => ⟨trivial, fun env r s₂ _ hexec => ?_⟩
  obtain ⟨hs, hQ⟩ := hstep s₁ (hinv ()) (stable_view hother s s₁ h hrely) env r s₂ hexec
  exact ⟨fun _ => hs, hQ⟩

/-- Asides keep what the others keep. -/
theorem aside_neutral (Q : RetireView → Prop) :
    Neutral (Retirement.calls settings tid) t Act.Aside fun s => Q (s.view tid ()) := by
  intro β a ha s hinv hQ
  refine ⟨trivial, fun env r s' _ hexec => ?_⟩
  have hview := view_of_aside ha hexec
  refine ⟨fun u => ?_, ?_⟩
  · show RetireView.Step t (s.view tid u) (s'.view tid u)
    rw [hview]
    exact .aside _
  · show Q (s'.view tid ())
    rw [hview]
    exact hQ

theorem aside_safe {Q : RetireView → Prop}
    (hother : ∀ v v', Q v → RetireView.protocol.Other t v v' → Q v') {α : Type} {p : Program α}
    (hp : p.All Act.Aside) {s : Retirement} (h : Q (s.view tid ())) :
    Safe (Retirement.calls settings tid) t p (fun _ s => Q (s.view tid ())) s :=
  Safe.of_all (stable_view hother) (aside_neutral Q) hp h

theorem newEvent_stamped (tid : TaskId) (type : String) (payload : JsonObj) :
    (newEvent tid type payload).Returns fun e => ∃ ts, e = ⟨tid, type, payload, ts⟩ :=
  Prog.Returns.bind (Prog.returns_any _) fun ts _ => ⟨ts, rfl⟩

theorem newEvent_returns (tid : TaskId) (type : String) (payload : JsonObj) :
    (newEvent tid type payload).Returns fun e => e.type = type :=
  (newEvent_stamped tid type payload).mono fun e he => by
    obtain ⟨ts, rfl⟩ := he
    rfl

theorem recordEvent_aside {type : String} (htype : type ∉ countedTypes) (tid : TaskId)
    (payload : JsonObj) : (recordEvent tid type payload).All Act.Aside := by
  refine Prog.All.bind_returns ((newEvent_silent tid type payload).mono Act.Silent.aside)
    (newEvent_returns tid type payload) fun e he => Prog.all_call.mpr ?_
  show e.type ∉ countedTypes
  rw [he]
  exact htype

theorem stopForRetire_aside (tid : TaskId) (wid : Option WorkerId) (stopRuntime : Bool)
    (handle : Option WorkerHandle) :
    (stopForRetire tid wid stopRuntime handle).All Act.Aside := by
  unfold stopForRetire
  split
  · exact Prog.All.tryCatch (Prog.all_call.mpr trivial) fun _ =>
      (recordEvent_aside (by decide) _ _).ignoring
  · trivial

/-- The state and the event that the gate leads to. -/
structure Gated (task : Task) (gated : Option String × Option Event) : Prop where
  kept : task.state.isTerminal = true → gated.1 = none
  asked : task.state.isTerminal = false → ∃ state ∈ finalStates, gated.1 = some state
  event : ∀ e, gated.2 = some e → e.type = "evaluation"

theorem evaluationEvent_gated (task : Task) (handle : Option WorkerHandle) :
    (evaluationEvent task handle).Returns
      fun gated => gated.1 ∈ finalStates ∧ ∀ e, gated.2 = some e → e.type = "evaluation" := by
  unfold evaluationEvent
  split
  · exact ⟨(by decide : "DONE" ∈ finalStates), fun e he => by cases he⟩
  · refine Prog.Returns.bind (Prog.returns_any _) fun result _ =>
      Prog.Returns.bind (newEvent_returns _ _ _) fun e he => ?_
    refine ⟨UndispatchedLemmas.evaluationOutcome_final _ result, ?_⟩
    rintro _ ⟨⟩
    exact he

theorem gateTerminal_gated (task : Task) {terminal : String} (hterminal : terminal ∈ finalStates)
    (handle : Option WorkerHandle) :
    (gateTerminal task (some terminal) handle).Returns (Gated task) := by
  unfold gateTerminal
  split
  · next hend =>
    exact ⟨fun _ => rfl, fun hopen => by simp [hend] at hopen, fun e he => by cases he⟩
  · next hopen =>
    split
    · refine Prog.Returns.bind (evaluationEvent_gated task handle) fun gated hgated => ?_
      exact ⟨fun hend => absurd hend hopen, fun _ => ⟨_, hgated.1, rfl⟩, hgated.2⟩
    · exact ⟨fun hend => absurd hend hopen, fun _ => ⟨_, hterminal, rfl⟩, fun e he => by cases he⟩

theorem gateTerminal_aside (task : Task) (terminal : Option String)
    (handle : Option WorkerHandle) : (gateTerminal task terminal handle).All Act.Aside := by
  unfold gateTerminal
  split
  · trivial
  · split
    · exact Prog.All.bind ((evaluationEvent_silent task handle).mono Act.Silent.aside)
        fun _ => trivial
    · trivial

/-- What a call leaves behind: it holds `_RETIRING`, and if it returns a state it has won. -/
def Left (t : ThreadId) (r : Except PyErr (Option String)) (v : RetireView) : Prop :=
  v.Owns t ∧ ∀ state, r = .ok (some state) → v.Won t

variable {s : Retirement} {wid : Option WorkerId} {worker : Option Worker} {task : Task}

theorem getWorker?_safe (wid : Option WorkerId) (howns : (s.view tid ()).Owns t) :
    Safe (Retirement.calls settings tid) t (getWorker? wid) (fun r s =>
      (s.view tid ()).Owns t ∧ ∀ worker, r = .ok worker → (s.view tid ()).Seen t wid worker) s := by
  cases wid with
  | none =>
    refine ⟨howns, ?_⟩
    rintro _ ⟨⟩
    exact ⟨howns, fun w h => (by cases h), fun w h => by cases h⟩
  | some w =>
    refine act_safe (fun _ _ h hother => (h.other hother).1) howns
      fun s₁ hinv howns env r s₂ hexec => ?_
    have hview := view_of_aside (by exact trivial) hexec
    rw [hview]
    refine ⟨.aside _, howns, ?_⟩
    rintro worker rfl
    rcases store_cases hexec with ⟨e, he, -⟩ | ⟨db', hget, -⟩
    · cases he
    · cases hget
      refine ⟨howns, fun x hx => by rw [Table.key_of_get? hx], fun x hx hon => ?_⟩
      have hid : x.id = w := Table.key_of_get? hx
      have hactive : (s₁.view tid ()).active x.id = true := by
        rw [hid]
        show (s₁.world.db.worker? w).any Worker.isActive = true
        rw [show s₁.world.db.worker? w = some x from hx]
        exact hon
      obtain ⟨hle, hone⟩ := hinv.released x.id
      have hne : (s₁.view tid ()).tally.released x.id ≠ 1 := fun h => by
        simp [(hone h).2] at hactive
      omega

theorem getTask_safe (hseen : (s.view tid ()).Seen t wid worker) :
    Safe (Retirement.calls settings tid) t (store (.getTask tid)) (fun r s =>
      (s.view tid ()).Seen t wid worker ∧
        ∀ task, r = .ok (some task) → (s.view tid ()).Met t wid worker task) s := by
  refine act_safe (fun _ _ h hother => h.other hother) hseen
    fun s₁ hinv hseen env r s₂ hexec => ?_
  have hview := view_of_aside (by exact trivial) hexec
  rw [hview]
  refine ⟨.aside _, hseen, ?_⟩
  rintro task rfl
  rcases store_cases hexec with ⟨e, he, -⟩ | ⟨db', hget, -⟩
  · cases he
  · have htask : s₁.world.db.task? tid = some task := by
      have hread := congrArg Prod.fst hget
      exact Except.ok.inj hread
    refine ⟨hseen, fun st hst => ?_⟩
    have hstate : s₁.world.db.state? tid = some task.state := by simp [Db.state?, htask]
    rw [show st = task.state from Option.some.inj (hst.symm.trans hstate)]

/-- The release comes at most once for each worker. -/
theorem releaseForRetire_safe (task : Task) {won : Prop} (hdue : (s.view tid ()).Due t worker)
    (hwon : won → (s.view tid ()).Won t) :
    Safe (Retirement.calls settings tid) t (releaseForRetire task tid worker) (fun _ s =>
      (s.view tid ()).Owns t ∧ (won → (s.view tid ()).Won t)) s := by
  have hother : ∀ v v' : RetireView, v.Owns t ∧ (won → v.Won t) →
      RetireView.protocol.Other t v v' → v'.Owns t ∧ (won → v'.Won t) :=
    fun v v' h hother => ⟨(h.1.other hother).1, fun hw => (h.2 hw).other hother⟩
  unfold releaseForRetire
  split
  · exact ⟨hdue.owns, hwon⟩
  · next w =>
    split
    · next lockId kind _ _ =>
      have hrelease : Safe (Retirement.calls settings tid) t (releaseLease kind lockId w.id)
          (fun _ s => (s.view tid ()).Owns t ∧ (won → (s.view tid ()).Won t)) s := by
        unfold releaseLease
        cases resourceGet kind with
        | error e => exact ⟨hdue.owns, hwon⟩
        | ok kind =>
          have hkept : ∀ v v' : RetireView, v.Due t (some w) ∧ (won → v.Won t) →
              RetireView.protocol.Other t v v' → v'.Due t (some w) ∧ (won → v'.Won t) :=
            fun v v' h hother => ⟨h.1.other hother, fun hw => (h.2 hw).other hother⟩
          refine act_safe hkept ⟨hdue, hwon⟩ fun s₁ hinv h env r s₂ hexec => ?_
          obtain ⟨hstep, howns, hkeep⟩ := releaseId_step h.1.owns (h.1.closed w rfl)
            (h.1.ended w rfl) (h.1.leased w rfl) hexec
          exact ⟨hstep, howns, fun hw => hkeep (h.2 hw)⟩
      refine Safe.tryCatch (hrelease.mono fun r s hend => ?_)
      cases r with
      | ok _ => exact hend
      | error e => exact aside_safe hother (recordEvent_aside (by decide) _ _).ignoring hend
    · exact ⟨hdue.owns, hwon⟩

theorem concludeRetire_safe (task : Task) (wid : Option WorkerId) {result : Option String}
    (hdue : (s.view tid ()).Due t worker)
    (hwon : (∃ state, result = some state) → (s.view tid ()).Won t) :
    Safe (Retirement.calls settings tid) t (concludeRetire task tid wid worker result)
      (fun r s => Left t r (s.view tid ())) s := by
  have hother : ∀ v v' : RetireView, v.Owns t ∧ ((∃ state, result = some state) → v.Won t) →
      RetireView.protocol.Other t v v' →
      v'.Owns t ∧ ((∃ state, result = some state) → v'.Won t) :=
    fun v v' h hother => ⟨(h.1.other hother).1, fun hw => (h.2 hw).other hother⟩
  refine Safe.seq (releaseForRetire_safe task hdue hwon) (fun _ s h => ?_) fun e s h =>
    ⟨h.1, fun state hr => by cases hr⟩
  have hdrop : (call (.unregister tid (.retirement tid wid)) : Program Unit).All Act.Aside :=
    Prog.all_call.mpr trivial
  refine Safe.seq (aside_safe hother hdrop h) (fun _ s h => ?_) fun e s h =>
    ⟨h.1, fun state hr => by cases hr⟩
  refine ⟨h.1, ?_⟩
  rintro state ⟨⟩
  exact h.2 ⟨state, rfl⟩

theorem finishWorker_safe (wid : Option WorkerId) {target : String} {event : Option Event}
    (hmet : (s.view tid ()).Met t wid worker task) (hopen : task.state.isTerminal = false)
    (htarget : target ∈ finalStates) (hevent : ∀ e, event = some e → e.type = "evaluation") :
    Safe (Retirement.calls settings tid) t (store (.finishWorker tid wid target event))
      (fun r s => (s.view tid ()).Owns t ∧
        (r = .ok true → (s.view tid ()).Won t ∧ (s.view tid ()).Due t worker)) s := by
  refine act_safe (fun _ _ h hother => h.other hother) hmet
    fun s₁ hinv hmet env r s₂ hexec => ?_
  obtain ⟨hstep, howns, hend⟩ := finishWorker_step hinv hmet.owns
    (fun st hst => (hmet.row st hst).trans hopen) htarget hevent hexec
  refine ⟨hstep, howns, fun hr => ?_⟩
  obtain ⟨hwon, hclosed, hreleased, hoff⟩ := hend hr
  exact ⟨hwon, howns, fun _ _ => hclosed, fun w hw => hoff w.id (hmet.named w hw),
    fun w _ => hreleased w.id⟩

/-- A task that had ended is left as it is; its worker, which was still active, is ended. -/
theorem endWorker?_safe (hmet : (s.view tid ()).Met t wid worker task)
    (hend : task.state.isTerminal = true) (hactive : ∃ w, worker = some w ∧ w.isActive = true) :
    Safe (Retirement.calls settings tid) t (endWorker? wid) (fun r s =>
      (s.view tid ()).Owns t ∧ (r = .ok () → (s.view tid ()).Due t worker)) s := by
  obtain ⟨w, rfl, hon⟩ := hactive
  have hwid := hmet.named w rfl
  subst hwid
  refine act_safe (fun _ _ h hother => h.other hother) hmet
    fun s₁ hinv hmet env r s₂ hexec => ?_
  obtain ⟨hstep, hrow, howner, hreleased, hoff⟩ := endWorker_step hexec
  have howns : (s₂.view tid ()).Owns t := howner.trans hmet.owns
  refine ⟨hstep, howns, fun hr => ⟨howns, fun x _ st hst => ?_, ?_, ?_⟩⟩
  · exact (hmet.row st (hrow.symm.trans hst)).trans hend
  · rintro x ⟨⟩
    exact hoff hr
  · rintro x ⟨⟩
    rw [hreleased]
    exact hmet.leased w rfl hon

theorem left_of_owns {e : PyErr} {v : RetireView} (h : v.Owns t) : Left t (.error e) v :=
  ⟨h, fun state hr => by cases hr⟩

theorem commitRetire_safe {terminal : String} (hterminal : terminal ∈ finalStates)
    (handle : Option WorkerHandle) (hmet : (s.view tid ()).Met t wid worker task)
    (hactive : task.state.isTerminal = true → ∃ w, worker = some w ∧ w.isActive = true) :
    Safe (Retirement.calls settings tid) t
      (commitRetire task tid wid worker (some terminal) handle)
      (fun r s => Left t r (s.view tid ())) s := by
  refine Safe.seq_returns (stable_view fun _ _ h hother => h.other hother) (aside_neutral _)
    (gateTerminal_aside task (some terminal) handle)
    (gateTerminal_gated task hterminal handle) hmet (fun gated s hgated hmet => ?_)
    fun e s hmet => left_of_owns hmet.owns
  obtain ⟨finalState, event⟩ := gated
  cases hend : task.state.isTerminal with
  | true =>
    have hnone : finalState = none := hgated.kept hend
    subst hnone
    refine Safe.seq (endWorker?_safe hmet hend (hactive hend)) (fun _ s h => ?_)
      fun e s h => left_of_owns h.1
    exact concludeRetire_safe task wid (h.2 rfl) (by rintro ⟨state, ⟨⟩⟩)
  | false =>
    obtain ⟨state, hstate, hsome⟩ := hgated.asked hend
    have hsome' : finalState = some state := hsome
    subst hsome'
    have hnonempty : nonEmpty? (some state) = some state := by
      have hne : state ≠ "" := by
        rintro rfl
        revert hstate
        decide
      simp [nonEmpty?, hne]
    dsimp only
    rw [hnonempty]
    refine Safe.seq (finishWorker_safe wid hmet hend hstate hgated.event)
      (fun committed s h => ?_) fun e s h => left_of_owns h.1
    cases committed with
    | false => exact ⟨h.1, fun state hr => by cases hr⟩
    | true => exact concludeRetire_safe task wid (h.2 rfl).2 fun _ => (h.2 rfl).1

/-- The part of a call under `_RETIRING`. -/
theorem retireBody_safe (wid : Option WorkerId) {terminal : String}
    (hterminal : terminal ∈ finalStates) (stopRuntime : Bool) (handle : Option WorkerHandle)
    (howns : (s.view tid ()).Owns t) :
    Safe (Retirement.calls settings tid) t
      (retireBody tid wid (some terminal) stopRuntime handle)
      (fun r s => Left t r (s.view tid ())) s := by
  -- returns nothing, after the handle is dropped
  have hdrop : ∀ s, (s.view tid ()).Owns t → Safe (Retirement.calls settings tid) t
      (call (.unregister tid (.retirement tid wid)) >>= fun _ => pure none)
      (fun r s => Left t r (s.view tid ())) s := by
    intro s howns
    have haside : (call (.unregister tid (.retirement tid wid)) : Program Unit).All Act.Aside :=
      Prog.all_call.mpr trivial
    refine Safe.seq (aside_safe (fun _ _ h hother => (h.other hother).1) haside howns)
      (fun _ s h => ⟨h, fun state hr => by cases hr⟩) fun e s h => left_of_owns h
  refine Safe.seq (getWorker?_safe wid howns) (fun worker s h => ?_) fun e s h => left_of_owns h.1
  refine Safe.seq (getTask_safe (h.2 worker rfl)) (fun task s h => ?_)
    fun e s h => left_of_owns h.1.owns
  cases task with
  | none => exact hdrop s h.1.owns
  | some task =>
    have hmet := h.2 task rfl
    dsimp only
    split
    · exact hdrop s hmet.owns
    · next hgo =>
      refine Safe.seq (aside_safe (fun _ _ h hother => h.other hother)
        (stopForRetire_aside tid wid stopRuntime handle) hmet) (fun _ s hmet => ?_)
        fun e s hmet => left_of_owns hmet.owns
      refine commitRetire_safe hterminal handle hmet fun hend => ?_
      cases worker with
      | none => simp [hend] at hgo
      | some w => exact ⟨w, rfl, by simpa [hend] using hgo⟩

/-- A call of `retire` that returns a state has won. -/
theorem retire_safe (wid : Option WorkerId) {terminal : String}
    (hterminal : terminal ∈ finalStates) (stopRuntime : Bool) :
    Safe (Retirement.calls settings tid) t (retire tid wid (some terminal) stopRuntime)
      (fun r s => ∀ state, r = .ok (some state) → (s.view tid ()).Won t) s := by
  have hstuck : some terminal ≠ some "STUCK" := by
    rintro ⟨⟩
    revert hterminal
    decide
  unfold retire
  rw [if_neg hstuck]
  have hbegin : Safe (Retirement.calls settings tid) t (call (.beginRetire tid)) (fun r s =>
      (∃ handle, r = .ok (some handle)) → (s.view tid ()).Owns t) s := by
    refine act_safe (P := fun _ => True) (fun _ _ _ _ => trivial) trivial
      fun s₁ hinv _ env r s₂ hexec => ?_
    rcases beginRetire_step hexec with ⟨rfl, hview⟩ | ⟨-, hstep, howns⟩
    · rw [hview]
      exact ⟨.aside _, by rintro ⟨handle, ⟨⟩⟩⟩
    · exact ⟨hstep, fun _ => howns⟩
  refine Safe.seq hbegin (fun handle s h => ?_) fun e s h state hr => by cases hr
  cases handle with
  | none =>
    intro state hr
    cases hr
  | some handle =>
    refine Safe.tryFinally ((retireBody_safe wid hterminal stopRuntime handle
      (h ⟨handle, rfl⟩)).mono fun r s hleft => ?_)
    have hkept : ∀ v v' : RetireView, Left t r v → RetireView.protocol.Other t v v' →
        Left t r v' :=
      fun v v' h hother => ⟨(h.1.other hother).1, fun state hr => (h.2 state hr).other hother⟩
    refine act_safe hkept hleft fun s₁ hinv hleft env r' s₂ hexec => ?_
    obtain ⟨rfl, hstep, hkeep⟩ := endRetire_step hleft.1 hexec
    exact ⟨hstep, fun state hr => hkeep (hleft.2 state hr)⟩

/-- Only the winner's caller reports, and after the return. -/
theorem report_safe (c : RetireCall) (state : String) (hwon : (s.view tid ()).Unreported t) :
    Safe (Retirement.calls settings tid) t (c.report tid state) (fun _ _ => True) s := by
  have hreport : ∀ (type : String) (payload : JsonObj), type ∈ reportTypes →
      Safe (Retirement.calls settings tid) t (recordEvent tid type payload)
        (fun _ _ => True) s := by
    intro type payload htype
    refine Safe.seq_returns (stable_view fun _ _ h hother => h.other hother)
      (aside_neutral (RetireView.Unreported t))
      ((newEvent_silent tid type payload).mono Act.Silent.aside)
      (newEvent_returns tid type payload) hwon (fun e s he hwon => ?_) fun _ _ _ => trivial
    refine act_safe (fun _ _ h hother => h.other hother) hwon
      fun s₁ hinv hwon env r s₂ hexec => ?_
    exact ⟨report_step (he ▸ htype) hwon hexec, trivial⟩
  cases c with
  | observer => exact hreport _ _ (by decide)
  | heartbeat => exact hreport _ _ (by decide)
  | stop => trivial
  | reconciliation => exact hreport _ _ (by decide)

theorem worker_aside (c : RetireCall) : (c.worker tid).All Act.Aside := by
  cases c with
  | heartbeat => exact Prog.all_call.mpr trivial
  | _ => trivial

theorem watched_safe (c : RetireCall) :
    Safe (Retirement.contract settings tid) t (c.watched tid) (fun _ _ => True) s := by
  refine Safe.seq (Q := fun _ _ => True) (Safe.embed (aside_safe (Q := fun _ => True)
    (fun _ _ _ _ => trivial) (worker_aside c) trivial)) (fun wid s _ => ?_) fun _ _ _ => trivial
  refine Safe.seq (Safe.embed (retire_safe wid c.terminal.property c.stopRuntime))
    (fun result s hwon => ?_) fun _ _ _ => trivial
  have htold : Safe (Retirement.contract settings tid) t (call (.returned result)) (fun _ s =>
      ∀ state, result = some state → (s.view tid ()).Unreported t) s := by
    refine Safe.call fun s₁ hrely hinv => ⟨trivial, fun env r s₂ _ hexec => ?_⟩
    change Retirement.exec settings tid t env (.returned result) s₁ = (r, s₂) at hexec
    have hwon₁ : ∀ state, result = some state → (s₁.view tid ()).Won t := by
      rintro state rfl
      exact (hrely ()).keeps (fun _ _ hother h => h.other hother) (hwon state rfl)
    obtain ⟨hstep, htold⟩ := returned_step hwon₁ hexec
    exact ⟨fun _ => hstep, fun state hr => htold (hwon₁ state hr)⟩
  refine Safe.seq htold (fun _ s htold => Safe.embed ?_) fun _ _ _ => trivial
  cases result with
  | none => trivial
  | some state => exact report_safe c state (htold state rfl)

theorem restart_inv (h : (s.view tid ()).Inv) :
    (Retirement.view tid ⟨.boot s.world.db, { s.tally with owner := none }⟩ ()).Inv :=
  { h with owned := fun t howns => (by cases howns) }

end RetireLemmas

open RetireLemmas in
/-- Every call keeps the contract, and so do a deletion of the task and a restart. -/
theorem retirements_sound (settings : Settings) (tid : TaskId) :
    (Retirement.contract settings tid).Sound (fun _ => True) True where
  safe := by
    intro op _ t s _ _
    suffices h : Safe (Retirement.contract settings tid) t
        ((retirements settings tid).program op) (fun _ _ => True) s from
      h.mono fun _ s _ hinv => ⟨hinv, fun _ => trivial, fun _ _ _ => .refl⟩
    cases op with
    | retire c => exact watched_safe c
    | delete =>
      exact Safe.embed (act_safe (P := fun _ => True) (fun _ _ _ _ => trivial) trivial
        fun _ _ _ _ _ _ hexec => ⟨deleteTask_step hexec, trivial⟩)
  restart := fun _ s hinv => ⟨fun _ => restart_inv (hinv ()), fun _ _ => trivial⟩

/-- Any number of calls of `retire` on one task, concurrent with each other and with a deletion of
the task, from any state of the process: at most one of them returns a state, the row comes into a
terminal state at most once, at most one evaluation event and one event of the callers are appended,
and the end of each worker is written and its lease released at most once. -/
theorem retired_once (settings : Settings) (tid : TaskId) (w : World)
    (events : List (Threads.Event Env RetireOp)) :
    let y := (Config.run (retirements settings tid) events
      (Config.initial ⟨w, RetireTally.zero⟩)).shared.tally
    y.returned ≤ 1 ∧ y.terminals ≤ 1 ∧ y.evaluations ≤ 1 ∧ y.reports ≤ 1 ∧
      ∀ wid, y.ended wid ≤ 1 ∧ y.released wid ≤ 1 := by
  intro y
  have hinitial : (Retirement.contract settings tid).Holds
      (Config.initial (⟨w, RetireTally.zero⟩ : Retirement)) :=
    Contract.holds_initial
      (fun _ => ⟨fun t h => (by cases h), fun _ => ⟨rfl, rfl, rfl, rfl⟩, fun t h => (by cases h),
        ⟨Nat.zero_le _, Nat.zero_le _, Nat.zero_le _, Nat.zero_le _⟩,
        fun wid => ⟨Nat.zero_le _, fun h => (by cases h)⟩,
        fun wid => ⟨Nat.zero_le _, fun h => (by cases h)⟩⟩)
      fun _ _ => trivial
  have hpermits : Config.Along (retirements settings tid)
      ((Retirement.contract settings tid).Permits (fun _ => True) True) events
      (Config.initial ⟨w, RetireTally.zero⟩) := by
    refine Config.along_of_forall (fun c ev => ?_) events _
    cases ev with
    | spawn op => trivial
    | step t env => exact fun _ _ _ _ => trivial
    | restart => trivial
  have hinv := ((retirements_sound settings tid).holds_run hpermits hinitial).inv ()
  obtain ⟨hret, hterm, heval, hrep⟩ := hinv.once
  exact ⟨hret, hterm, heval, hrep, fun wid => ⟨(hinv.ended wid).1, (hinv.released wid).1⟩⟩

end Flotilla
