import KerSorMonitor.Lib.RelyGuarantee
import KerSorMonitor.Flotilla.Effects
import KerSorMonitor.Flotilla.Programs

/-!
# Hosts (`delete_host` of `flotilla/routes.py` and `flotilla/store.py`)

A task names its host in a column without a foreign key. A submission looks the host up and inserts
the task later; a deletion asks for tasks of the host and deletes the row later.

Results:
1. `exec_hosts`: no other transaction drops a host.
2. `hosts_valid`: the runs in which every task that can be dispatched has its host.
-/

namespace Flotilla

open Keyed Threads
open Prog (call)

/-! ## Transactions -/

/-- `DELETE FROM host WHERE id=?`. -/
def Db.deleteHostRow (db : Db) (hid : String) : Db :=
  { db with host := db.host.deleteWhere fun h => h.id = hid }

namespace Store

/-- `host_has_active_tasks`. -/
def hostHasActiveTasks (hid : String) (db : Db) : Bool :=
  db.task.rows.any fun t => t.targetHost = some hid && !t.state.isTerminal

/-- `delete_host`. -/
def deleteHost (hid : String) : Db → Except PyErr Unit × Db :=
  connection fun db => (.ok (), db.deleteHostRow hid)

end Store

/-! ## The system with deletions of hosts -/

/-- The actions of the control plane, and those that concern hosts. -/
inductive HostAct : Type → Type 1
  | plain {α : Type} (a : Act α) : HostAct α
  /-- The `get_host` of a submission. -/
  | lookUp (hid : String) : HostAct (Option Host)
  | hostHasActiveTasks (hid : String) : HostAct Bool
  | deleteHost (hid : String) : HostAct Unit

/-- An action of a submission. -/
def HostAct.submitting : {α : Type} → Act α → HostAct α
  | _, .store (.getHost hid) => .lookUp hid
  | _, a => .plain a

/-- The tasks that an action inserts. -/
def Act.submitted : {α : Type} → Act α → List Task
  | _, .store (.createTasks tasks) => tasks
  | _, _ => []

def Act.submits : {α : Type} → Act α → Bool
  | _, .store (.createTasks _) => true
  | _, _ => false

/-- The state of the control plane. The marks are ghost: the hosts that a submission has found and
not yet inserted its tasks for, and those that a deletion has found without active tasks and not yet
deleted. -/
structure HostWorld where
  world : World
  looked : List (ThreadId × String)
  asked : List (ThreadId × String)

namespace HostWorld

def boot (db : Db) : HostWorld := ⟨.boot db, [], []⟩

/-- The marks of the other threads. -/
def others (t : ThreadId) (marks : List (ThreadId × String)) : List (ThreadId × String) :=
  marks.filter fun m => m.1 ≠ t

/-- A transaction that the existing ones do not have. -/
def transact {α : Type} (env : Env) (q : Db → Except PyErr α × Db) (s : HostWorld) :
    Except PyErr α × HostWorld :=
  match env.raises with
  | some e => (.error ⟨.operationalError, e.msg⟩, s)
  | none => ((q s.world.db).1, { s with world := { s.world with db := (q s.world.db).2 } })

/-- What an action does to the marks. -/
def mark (t : ThreadId) : {α : Type} → HostAct α → Except PyErr α → HostWorld → HostWorld
  | _, .plain a, _, s => { s with looked := if a.submits then others t s.looked else s.looked }
  | _, .lookUp hid, r, s =>
    { s with looked := if r.toOption.join.isSome then (t, hid) :: s.looked else s.looked }
  | _, .hostHasActiveTasks hid, r, s =>
    { s with asked := if r.toOption = some false then (t, hid) :: s.asked else s.asked }
  | _, .deleteHost _, _, s => { s with asked := others t s.asked }

/-- What an action does, apart from the marks. -/
def act (settings : Settings) (env : Env) :
    {α : Type} → HostAct α → HostWorld → Except PyErr α × HostWorld
  | _, .plain a, s =>
    ((World.exec settings env a s.world).1, { s with world := (World.exec settings env a s.world).2 })
  | _, .lookUp hid, s => s.transact env (Transaction.reading (Store.getHost hid))
  | _, .hostHasActiveTasks hid, s =>
    s.transact env (Transaction.reading (Store.hostHasActiveTasks hid))
  | _, .deleteHost hid, s => s.transact env (Store.deleteHost hid)

def exec (settings : Settings) (t : ThreadId) {α : Type} (a : HostAct α) (env : Env)
    (s : HostWorld) : Except PyErr α × HostWorld :=
  ((s.act settings env a).1, mark t a (s.act settings env a).1 (s.act settings env a).2)

end HostWorld

/-- `delete_host` of the routes. -/
def deleteHostRequest (hid : String) : Prog HostAct PyErr Unit := do
  match ← call (.plain (.store (.getHost hid))) with
  | none => .throw ⟨.httpException 404, "host not found"⟩
  | some _ =>
    if ← call (.hostHasActiveTasks hid) then
      .throw ⟨.httpException 409, "host is referenced by non-terminal tasks"⟩
    else call (.deleteHost hid)

/-- The operations of the control plane, any change of the state of a task, and the deletion of a
host. -/
inductive HostOp
  | plain (op : Op)
  | setTaskState (tid : TaskId) (newState : String) (expected : Option (List TaskState))
  | deleteHost (hid : String)

def HostOp.program (settings : Settings) : HostOp → Prog HostAct PyErr Unit
  | .plain (.createTasks pid tasks) =>
    ((Op.createTasks pid tasks).program settings).embed HostAct.submitting
  | .plain op => (op.program settings).embed .plain
  | .setTaskState tid newState expected =>
    (discard (store (.setTaskState tid newState expected))).embed .plain
  | .deleteHost hid => deleteHostRequest hid

def hostProcess (settings : Settings) : System HostAct PyErr HostWorld Env HostOp where
  exec t {_} a env s := s.exec settings t a env
  program := HostOp.program settings
  finish t s := { s with looked := HostWorld.others t s.looked, asked := HostWorld.others t s.asked }
  restart s := .boot s.world.db

/-! ## References -/

/-- The host of a task, if it has one. -/
def Task.host? (t : Task) : Option String := nonEmpty? t.targetHost

/-- The states that a dispatch may follow. -/
def TaskState.dispatchable : TaskState → Bool
  | .planned | .queued | .dispatching | .lost => true
  | _ => false

/-- The states that no task leaves. -/
def TaskState.closed : TaskState → Bool
  | .done | .failed | .cancelled => true
  | _ => false

/-- Every task that can still be dispatched has its host. -/
def HostsValid (db : Db) : Prop :=
  ∀ t ∈ db.task.rows, t.state.dispatchable = true → ∀ hid, t.host? = some hid → db.host.Has hid

instance (db : Db) : Decidable (HostsValid db) :=
  inferInstanceAs (Decidable (∀ t ∈ db.task.rows, t.state.dispatchable = true →
    ∀ hid ∈ t.host?, db.host.Has hid))

/-- What the runs are asked to meet at an action: a host is asked about only while no lost task names
it, it is deleted only while no submission has found it, and tasks are inserted only while no deletion
has passed its check of their hosts. -/
def HostAct.Careful : {α : Type} → HostAct α → HostWorld → Prop
  | _, .hostHasActiveTasks hid, s =>
    ∀ t ∈ s.world.db.task.rows, t.host? = some hid → t.state ≠ .lost
  | _, .deleteHost hid, s => ∀ m ∈ s.looked, m.2 ≠ hid
  | _, .plain a, s => ∀ t ∈ a.submitted, ∀ m ∈ s.asked, t.host? ≠ some m.2
  | _, .lookUp _, _ => True

instance : ∀ {α : Type} (a : HostAct α) (s : HostWorld), Decidable (a.Careful s)
  | _, .plain a, s =>
    inferInstanceAs (Decidable (∀ t ∈ a.submitted, ∀ m ∈ s.asked, t.host? ≠ some m.2))
  | _, .lookUp _, _ => isTrue trivial
  | _, .hostHasActiveTasks hid, s => inferInstanceAs (Decidable
      (∀ t ∈ s.world.db.task.rows, t.host? = some hid → t.state ≠ .lost))
  | _, .deleteHost hid, s => inferInstanceAs (Decidable (∀ m ∈ s.looked, m.2 ≠ hid))

/-! ## No other transaction drops a host -/

namespace HostLemmas

open Store StoreLemmas Transaction

/-- The transaction keeps the hosts. -/
def KeepsHosts {α : Type} (f : Db → Except PyErr α × Db) : Prop := ∀ db, (f db).2.host = db.host

theorem keepsHosts_connection {α : Type} {body : Db → Except PyErr α × Db} (h : KeepsHosts body) :
    KeepsHosts (connection body) := by
  intro db
  have hbody := h db
  unfold connection
  cases hb : body db with
  | mk r db' =>
    rw [hb] at hbody
    cases r with
    | ok a => exact hbody
    | error e => rfl

theorem insertTask_host {db db' : Db} {t : Task} (h : db.insertTask t = .ok db') :
    db'.host = db.host := by
  unfold Db.insertTask at h
  split at h
  · cases h
  · split at h <;> cases h
    rfl

theorem insertWorker_host {db db' : Db} {w : Worker} (h : db.insertWorker w = .ok db') :
    db'.host = db.host := by
  unfold Db.insertWorker at h
  split at h
  · cases h
  · split at h <;> cases h
    rfl

theorem insertEvent_host {db db' : Db} {e : Event} (h : db.insertEvent e = .ok db') :
    db'.host = db.host := by
  unfold Db.insertEvent at h
  split at h <;> cases h
  rfl

theorem createTasksBody_host (tasks : List Task) : KeepsHosts (createTasksBody tasks) := by
  induction tasks with
  | nil => exact fun _ => rfl
  | cons t tasks ih =>
    intro db
    unfold createTasksBody
    cases hins : db.insertTask t with
    | error e => rfl
    | ok db' => exact (ih db').trans (insertTask_host hins)

theorem claimRows_host (now : String) (rows : List Task) (db : Db) :
    (claimRows now rows db).2.host = db.host := by
  induction rows generalizing db with
  | nil => rfl
  | cons row rows ih =>
    unfold claimRows
    exact ih _

theorem markLostRows_host (now : String) (ids : List TaskId) : KeepsHosts (markLostRows now ids) := by
  induction ids with
  | nil => exact fun _ => rfl
  | cons tid ids ih =>
    intro db
    unfold markLostRows
    dsimp only
    split
    · rfl
    · next db' hins =>
      have hevent := insertEvent_host hins
      exact (ih db').trans hevent

theorem setTaskState_host (now : String) (tid : TaskId) (newState : String)
    (expected : Option (List TaskState)) : KeepsHosts (setTaskState now tid newState expected) := by
  intro db
  have h : setTaskState now tid newState expected db = (_, (setTaskState now tid newState expected db).2) :=
    rfl
  rcases setTaskState_cases h with ⟨heq, -⟩ | ⟨_, _, -, -, -, -, heq⟩ <;> rw [heq]
  rfl

theorem activateWorker_host (now : String) (tid : TaskId) (worker : Worker) (workspace : String) :
    KeepsHosts (activateWorker now tid worker workspace) := by
  refine keepsHosts_connection fun db => ?_
  split
  · rfl
  split
  · rfl
  split
  · rfl
  split
  · rfl
  · next db' hins =>
    have hworker := insertWorker_host hins
    exact hworker

theorem finishWorker_host (now : String) (tid : TaskId) (workerId : Option WorkerId)
    (terminalState : String) (event : Option Event) :
    KeepsHosts (finishWorker now tid workerId terminalState event) := by
  refine keepsHosts_connection fun db => ?_
  dsimp only
  split
  · rfl
  split
  · rfl
  · have hend : ∀ db' : Db, (endWorkerOpt db' workerId now).host = db'.host := by
      intro db'
      cases workerId <;> rfl
    split
    · exact hend _
    split
    · exact hend _
    · next db' hins =>
      have hevent := insertEvent_host hins
      exact hevent.trans (hend _)

theorem appendEvent_host (settings : Settings) (e : Event) :
    KeepsHosts (appendEvent settings e) := by
  refine keepsHosts_connection fun db => ?_
  dsimp only
  split
  · rfl
  · next db' hins =>
    have hevent := insertEvent_host hins
    split
    · split <;> exact hevent
    · exact hevent

/-- No transaction of the others drops a host. -/
theorem exec_hosts {settings : Settings} {clock : Clock} {α : Type} (tx : Transaction α) (db : Db)
    {hid : String} (h : db.host.Has hid) : (tx.exec settings clock db).2.host.Has hid := by
  have hkeeps : ∀ {f : Db → Except PyErr α × Db}, KeepsHosts f → (f db).2.host.Has hid := by
    intro f hf
    rw [hf db]
    exact h
  cases tx with
  | getProject | getHost | existingTaskIds | getTask | allTasks | activeWorkerId | getWorker
  | statusEvents | deleteTask | endWorker | setWorkerSessionUuid => exact h
  | createHost host =>
    change (Store.createHost host db).2.host.Has hid
    unfold Store.createHost connection Db.insertHost
    dsimp only
    by_cases hu : db.host.Has host.id
    · rw [dif_pos hu]
      exact h
    · rw [dif_neg hu]
      obtain ⟨row, hrow, hkey⟩ := h
      exact ⟨row, (Table.mem_rows_insert (h := hu)).mpr (.inl hrow), hkey⟩
  | createProject p =>
    refine hkeeps (keepsHosts_connection fun db => ?_)
    dsimp only [Db.insertProject]
    split <;> rfl
  | createTasks tasks => exact hkeeps (keepsHosts_connection (createTasksBody_host tasks))
  | setTaskState tid newState expected => exact hkeeps (setTaskState_host _ _ _ _)
  | releaseTaskClaim tid target => exact hkeeps (setTaskState_host _ _ _ _)
  | claimQueuedTasks maxActive =>
    refine hkeeps fun db => ?_
    change (Store.claimQueuedTasks clock.now maxActive db).2.host = db.host
    unfold Store.claimQueuedTasks
    split
    · rfl
    · refine keepsHosts_connection (fun db => ?_) db
      dsimp only
      split
      · rfl
      · exact claimRows_host _ _ _
  | markStaleDispatchingLost =>
    refine hkeeps (keepsHosts_connection fun db => ?_)
    dsimp only
    have hrows := markLostRows_host clock.now (staleDispatching clock.cutoff db) db
    split <;> next heq => rw [heq] at hrows; exact hrows
  | activateWorker tid worker workspace => exact hkeeps (activateWorker_host _ _ _ _)
  | finishWorker tid workerId terminalState event => exact hkeeps (finishWorker_host _ _ _ _ _)
  | createWorker w =>
    refine hkeeps (keepsHosts_connection fun db => ?_)
    split
    · rfl
    · next db' hins =>
      have hworker := insertWorker_host hins
      exact hworker
  | appendEvent e => exact hkeeps (appendEvent_host _ _)

end HostLemmas

/-! ## The invariant -/

/-- Every task that is not closed has its host, a host that was found is there until the tasks are
inserted, and a host that was found without active tasks has none that is not closed. -/
structure Referenced (s : HostWorld) : Prop where
  rows : ∀ t ∈ s.world.db.task.rows, t.state.closed = false → ∀ hid, t.host? = some hid →
    s.world.db.host.Has hid
  looked : ∀ m ∈ s.looked, s.world.db.host.Has m.2
  asked : ∀ m ∈ s.asked, ∀ t ∈ s.world.db.task.rows, t.host? = some m.2 → t.state.closed = true

theorem Referenced.valid {s : HostWorld} (h : Referenced s) : HostsValid s.world.db := by
  intro t ht hstate hid hhost
  refine h.rows t ht ?_ hid hhost
  cases hs : t.state <;> rw [hs] at hstate <;> first | rfl | cases hstate

namespace HostLemmas

open Store StoreLemmas Transaction TransactionLemmas

variable {settings : Settings} {α : Type} {env : Env} {s s' : HostWorld} {t : ThreadId}

/-- A row after a transaction is one from before, moved along the table, or a new one. -/
theorem row_cases {clock : Clock} {tx : Transaction α} {db db' : Db} {r : Except PyErr α}
    (h : tx.exec settings clock db = (r, db')) {task' : Task} (htask' : task' ∈ db'.task.rows) :
    (∃ task ∈ db.task.rows, RowStep task task') ∨ tx.Creates task' := by
  have hget' : db'.task? task'.id = some task' := Table.get?_eq_some_iff.mpr ⟨htask', rfl⟩
  cases hget : db.task? task'.id with
  | none => exact .inr (exec_created h hget hget')
  | some task =>
    exact .inl ⟨task, (Table.get?_eq_some_iff.mp hget).1, exec_rowStep h hget hget'⟩

theorem rowStep_host? {task task' : Task} (h : RowStep task task') : task'.host? = task.host? := by
  rw [h.fixed]
  rfl

theorem rowStep_closed {task task' : Task} (h : RowStep task task')
    (hclosed : task.state.closed = true) : task'.state.closed = true := by
  rcases h.state with hsame | hmove
  · rw [← hsame]
    exact hclosed
  · refine absurd hmove (not_allowed_from_absorbing ?_)
    cases hs : task.state <;> rw [hs] at hclosed <;> first | exact absurd hclosed (by decide) | simp

/-- A transaction keeps the invariant if the tasks that it creates have hosts that no deletion is
about to drop. -/
theorem referenced_exec {clock : Clock} {tx : Transaction α} {db' : Db} {r : Except PyErr α}
    (h : tx.exec settings clock s.world.db = (r, db')) (hs : Referenced s)
    (hnew : ∀ task, tx.Creates task → ∀ hid, task.host? = some hid →
      s.world.db.host.Has hid ∧ ∀ m ∈ s.asked, m.2 ≠ hid) :
    Referenced { s with world := { s.world with db := db' } } := by
  have hhosts : ∀ {hid}, s.world.db.host.Has hid → db'.host.Has hid := by
    intro hid hhas
    have := @exec_hosts settings clock _ tx s.world.db _ hhas
    rwa [h] at this
  refine ⟨fun task' htask' hopen hid hhost => ?_, fun m hm => hhosts (hs.looked m hm),
    fun m hm task' htask' hhost => ?_⟩
  · rcases row_cases h htask' with ⟨task, htask, hstep⟩ | hcreated
    · rw [rowStep_host? hstep] at hhost
      refine hhosts (hs.rows task htask ?_ hid hhost)
      cases hclosed : task.state.closed with
      | false => rfl
      | true =>
        rw [rowStep_closed hstep hclosed] at hopen
        cases hopen
    · exact hhosts (hnew task' hcreated hid hhost).1
  · rcases row_cases h htask' with ⟨task, htask, hstep⟩ | hcreated
    · rw [rowStep_host? hstep] at hhost
      exact rowStep_closed hstep (hs.asked m hm task htask hhost)
    · exact absurd rfl ((hnew task' hcreated m.2 hhost).2 m hm)

/-- An action keeps the invariant if the tasks that it creates have hosts that no deletion is about to
drop. -/
theorem referenced_plain (a : Act α) (hs : Referenced s)
    (hnew : ∀ task ∈ a.submitted, ∀ hid, task.host? = some hid →
      s.world.db.host.Has hid ∧ ∀ m ∈ s.asked, m.2 ≠ hid) :
    Referenced { s with world := (World.exec settings env a s.world).2 } := by
  by_cases hstore : ∃ q : Transaction α, a = .store q
  · obtain ⟨q, rfl⟩ := hstore
    unfold World.exec
    cases hraises : env.raises with
    | some e => exact hs
    | none =>
      refine referenced_exec (Prod.ext rfl rfl) hs fun task hcreates => hnew task ?_
      cases q with
      | createTasks => exact hcreates
      | _ => exact hcreates.elim
  · have hdb := @Effects.exec_db settings α env a
      (fun q hq => hstore ⟨q, hq⟩) s.world
    obtain ⟨hrows, hlooked, hasked⟩ := hs
    rw [← hdb] at hrows hlooked hasked
    exact ⟨hrows, hlooked, hasked⟩

/-! ### The marks -/

theorem mem_others {marks : List (ThreadId × String)} {m : ThreadId × String} :
    m ∈ HostWorld.others t marks ↔ m ∈ marks ∧ m.1 ≠ t := by
  simp [HostWorld.others]

/-- A thread leaves the marks of the others. -/
theorem mark_others (a : HostAct α) (r : Except PyErr α) {m : ThreadId × String} (hm : m.1 ≠ t) :
    (m ∈ s.looked → m ∈ (HostWorld.mark t a r s).looked) ∧
      (m ∈ s.asked → m ∈ (HostWorld.mark t a r s).asked) := by
  have hkept : ∀ {marks : List (ThreadId × String)}, m ∈ marks → m ∈ HostWorld.others t marks :=
    fun h => mem_others.mpr ⟨h, hm⟩
  cases a with
  | plain a =>
    refine ⟨fun h => ?_, id⟩
    dsimp only [HostWorld.mark]
    split
    · exact hkept h
    · exact h
  | lookUp hid =>
    refine ⟨fun h => ?_, id⟩
    dsimp only [HostWorld.mark]
    split
    · exact List.mem_cons_of_mem _ h
    · exact h
  | hostHasActiveTasks hid =>
    refine ⟨id, fun h => ?_⟩
    dsimp only [HostWorld.mark]
    split
    · exact List.mem_cons_of_mem _ h
    · exact h
  | deleteHost hid => exact ⟨id, hkept⟩

theorem act_marks (a : HostAct α) : (s.act settings env a).2.looked = s.looked ∧
    (s.act settings env a).2.asked = s.asked := by
  have htransact : ∀ {β : Type} (q : Db → Except PyErr β × Db),
      (s.transact env q).2.looked = s.looked ∧ (s.transact env q).2.asked = s.asked := by
    intro β q
    unfold HostWorld.transact
    split <;> exact ⟨rfl, rfl⟩
  cases a with
  | plain a => exact ⟨rfl, rfl⟩
  | lookUp | hostHasActiveTasks | deleteHost => exact htransact _

theorem exec_others (a : HostAct α) {m : ThreadId × String} (hm : m.1 ≠ t) :
    (m ∈ s.looked → m ∈ (s.exec settings t a env).2.looked) ∧
      (m ∈ s.asked → m ∈ (s.exec settings t a env).2.asked) := by
  have hmark := @mark_others α (s.act settings env a).2 t a (s.act settings env a).1 m hm
  rw [(act_marks a).1, (act_marks a).2] at hmark
  exact hmark

end HostLemmas

open HostLemmas in
/-- The threads leave each other's marks alone. -/
def hosts (settings : Settings) : Contract (hostProcess settings) where
  inv := Referenced
  rely t s s' := ∀ m : ThreadId × String, m.1 = t →
    (m ∈ s.looked → m ∈ s'.looked) ∧ (m ∈ s.asked → m ∈ s'.asked)
  guar t s s' := Referenced s' ∧ ∀ m : ThreadId × String, m.1 ≠ t →
    (m ∈ s.looked → m ∈ s'.looked) ∧ (m ∈ s.asked → m ∈ s'.asked)
  clean _ _ := True
  assume _ {_} a _ s := a.Careful s
  check _ {_} _ _ := True
  rely_refl _ _ _ _ := ⟨id, id⟩
  rely_trans h h' m hm := ⟨fun hl => (h' m hm).1 ((h m hm).1 hl), fun ha => (h' m hm).2 ((h m hm).2 ha)⟩
  clean_rely _ _ := trivial
  inv_guar _ h := h.1
  rely_guar _ h hne m hm := h.2 m fun heq => hne (hm.symm.trans heq)

namespace HostLemmas

variable {settings : Settings} {α : Type} {env : Env} {s s' : HostWorld} {t : ThreadId}

/-- An action that keeps the invariant keeps the contract. -/
theorem guar_of_referenced {a : HostAct α} {r : Except PyErr α}
    (hexec : s.exec settings t a env = (r, s')) (h : Referenced s') :
    (hosts settings).guar t s s' := by
  refine ⟨h, fun m hm => ?_⟩
  have hothers := @exec_others settings α env s t a m hm
  rw [hexec] at hothers
  exact hothers

theorem referenced_marks (hs : Referenced s) {looked asked : List (ThreadId × String)}
    (hlooked : ∀ m ∈ looked, m ∈ s.looked ∨ s.world.db.host.Has m.2)
    (hasked : ∀ m ∈ asked, m ∈ s.asked ∨
      ∀ task ∈ s.world.db.task.rows, task.host? = some m.2 → task.state.closed = true) :
    Referenced { s with looked := looked, asked := asked } :=
  ⟨hs.rows, fun m hm => (hlooked m hm).elim (hs.looked m) id,
    fun m hm => (hasked m hm).elim (hs.asked m) id⟩

theorem submitted_of_submitless {a : Act α} (ha : a.Submitless) : a.submitted = [] := by
  cases a with
  | store q =>
    cases q with
    | createTasks => exact ha.elim
    | _ => rfl
  | _ => rfl

theorem submits_of_submitless {a : Act α} (ha : a.Submitless) : a.submits = false := by
  cases a with
  | store q =>
    cases q with
    | createTasks => exact ha.elim
    | _ => rfl
  | _ => rfl

/-- A thread keeps the marks of its submission until it submits. -/
theorem exec_looked {b : HostAct α} (hb : ∀ a, b = .plain a → a.submits = false)
    {r : Except PyErr α} (hexec : s.exec settings t b env = (r, s')) {m : ThreadId × String}
    (hm : m ∈ s.looked) : m ∈ s'.looked := by
  rw [← (@act_marks settings α env s b).1] at hm
  rw [← (Prod.mk.inj hexec).2]
  cases b with
  | plain a =>
    dsimp only [HostWorld.mark]
    rw [hb a rfl]
    exact hm
  | lookUp hid =>
    dsimp only [HostWorld.mark]
    split
    · exact List.mem_cons_of_mem _ hm
    · exact hm
  | hostHasActiveTasks | deleteHost => exact hm

/-- A thread that submits nothing keeps the contract. -/
theorem plain_step {a : Act α} (ha : a.Submitless) (hs : Referenced s) {r : Except PyErr α}
    (hexec : s.exec settings t (.plain a) env = (r, s')) : (hosts settings).guar t s s' := by
  have hworld := @referenced_plain settings α env s a hs fun task htask =>
    absurd (submitted_of_submitless ha ▸ htask) List.not_mem_nil
  have hs' : s' = { s with world := (World.exec settings env a s.world).2 } := by
    rw [← (Prod.mk.inj hexec).2]
    dsimp only [HostWorld.mark, HostWorld.act]
    rw [submits_of_submitless ha]
    rfl
  subst hs'
  exact guar_of_referenced hexec hworld

/-- A transaction that only reads returns what is there, or fails. -/
theorem transact_reading {f : Db → α} : ∃ r, s.transact env (Transaction.reading f) = (r, s) ∧
    ∀ a, r = .ok a → a = f s.world.db := by
  unfold HostWorld.transact
  cases env.raises with
  | some e => exact ⟨_, rfl, fun a h => by cases h⟩
  | none => exact ⟨_, rfl, fun a h => by cases h; rfl⟩

theorem closed_of_terminal {st : TaskState} (h : st.isTerminal = true) (hlost : st ≠ .lost) :
    st.closed = true := by
  revert h hlost
  cases st <;> decide

theorem exec_of_act {a : HostAct α} {r : Except PyErr α} (h : s.act settings env a = (r, s')) :
    s.exec settings t a env = (r, HostWorld.mark t a r s') := by
  rw [HostWorld.exec, h]

/-- A host that is found is there, and marked. -/
theorem lookUp_step {hid : String} (hs : Referenced s) {r : Except PyErr (Option Host)}
    (hexec : s.exec settings t (.lookUp hid) env = (r, s')) :
    (hosts settings).guar t s s' ∧ ∀ host, r = .ok (some host) → (t, hid) ∈ s'.looked := by
  obtain ⟨r₀, hact, hread⟩ := @transact_reading (Option Host) env s (Store.getHost hid)
  have hrun : s.exec settings t (.lookUp hid) env = (r₀, HostWorld.mark t (.lookUp hid) r₀ s) :=
    exec_of_act hact
  obtain ⟨hr, hs'⟩ := Prod.mk.inj (hrun.symm.trans hexec)
  subst hr hs'
  have hfound : r₀.toOption.join.isSome = true → s.world.db.host.Has hid := by
    intro hsome
    cases r₀ with
    | error e => cases hsome
    | ok host =>
      rw [Table.has_iff_isSome]
      rw [hread host rfl] at hsome
      exact hsome
  refine ⟨guar_of_referenced hexec (referenced_marks hs (fun m hm => ?_) fun m hm => .inl hm), ?_⟩
  · split at hm
    · next hsome =>
      rcases List.mem_cons.mp hm with rfl | hm
      · exact .inr (hfound hsome)
      · exact .inl hm
    · exact .inl hm
  · rintro host rfl
    exact List.mem_cons_self

/-- A host without active tasks, none of whose tasks is lost, has closed ones only. -/
theorem hostHasActiveTasks_step {hid : String} (hs : Referenced s)
    (hcareful : (HostAct.hostHasActiveTasks hid).Careful s) {r : Except PyErr Bool}
    (hexec : s.exec settings t (.hostHasActiveTasks hid) env = (r, s')) :
    (hosts settings).guar t s s' ∧ (r = .ok false → (t, hid) ∈ s'.asked) := by
  obtain ⟨r₀, hact, hread⟩ := @transact_reading Bool env s (Store.hostHasActiveTasks hid)
  have hrun : s.exec settings t (.hostHasActiveTasks hid) env =
      (r₀, HostWorld.mark t (.hostHasActiveTasks hid) r₀ s) := exec_of_act hact
  obtain ⟨hr, hs'⟩ := Prod.mk.inj (hrun.symm.trans hexec)
  subst hr hs'
  have hclosed : r₀.toOption = some false → ∀ task ∈ s.world.db.task.rows,
      task.host? = some hid → task.state.closed = true := by
    intro hfalse task htask hhost
    cases r₀ with
    | error e => cases hfalse
    | ok active =>
      cases hfalse
      have hnone := hread false rfl
      have hterminal : task.state.isTerminal = true := by
        have htarget : task.targetHost = some hid := by
          unfold Task.host? nonEmpty? at hhost
          split at hhost
          · next host heq =>
            split at hhost
            · cases hhost
            · rw [heq, hhost]
          · cases hhost
        by_contra hactive
        rw [Bool.not_eq_true] at hactive
        refine absurd hnone.symm ?_
        unfold Store.hostHasActiveTasks
        rw [Bool.not_eq_false, List.any_eq_true]
        exact ⟨task, htask, by simp [htarget, hactive]⟩
      have hlost := hcareful task htask hhost
      exact closed_of_terminal hterminal hlost
  refine ⟨guar_of_referenced hexec (referenced_marks hs (fun m hm => .inl hm) fun m hm => ?_), ?_⟩
  · split at hm
    · next hfalse =>
      rcases List.mem_cons.mp hm with rfl | hm
      · exact .inr (hclosed hfalse)
      · exact .inl hm
    · exact .inl hm
  · rintro rfl
    exact List.mem_cons_self

/-- A host all of whose tasks are closed, and that no submission has found, can go. -/
theorem deleteHost_step {hid : String} (hs : Referenced s) (hasked : (t, hid) ∈ s.asked)
    (hcareful : (HostAct.deleteHost hid).Careful s) {r : Except PyErr Unit}
    (hexec : s.exec settings t (.deleteHost hid) env = (r, s')) : (hosts settings).guar t s s' := by
  refine guar_of_referenced hexec ?_
  have hs' : s' = { (s.transact env (Store.deleteHost hid)).2 with
      asked := HostWorld.others t (s.transact env (Store.deleteHost hid)).2.asked } :=
    (Prod.mk.inj hexec).2.symm
  subst hs'
  unfold HostWorld.transact
  cases env.raises with
  | some e => exact referenced_marks hs (fun m hm => .inl hm) fun m hm => .inl (mem_others.mp hm).1
  | none =>
    have hkept : ∀ hid', s.world.db.host.Has hid' → hid' ≠ hid →
        (s.world.db.deleteHostRow hid).host.Has hid' := by
      rintro hid' ⟨row, hrow, rfl⟩ hne
      exact ⟨row, Table.mem_rows_deleteWhere.mpr ⟨hrow, decide_eq_false hne⟩, rfl⟩
    refine ⟨fun task htask hopen hid' hhost => hkept hid' (hs.rows task htask hopen hid' hhost) ?_,
      fun m hm => hkept m.2 (hs.looked m hm) (hcareful m hm),
      fun m hm => hs.asked m (mem_others.mp hm).1⟩
    rintro rfl
    have hclosed := hs.asked _ hasked task htask hhost
    rw [hopen] at hclosed
    cases hclosed

/-- The tasks of a submission have hosts that it has found. -/
theorem createTasks_step {tasks : List Task} (hs : Referenced s)
    (hfound : ∀ task ∈ tasks, ∀ hid, task.host? = some hid → (t, hid) ∈ s.looked)
    (hcareful : (HostAct.plain (.store (.createTasks tasks))).Careful s) {r : Except PyErr Unit}
    (hexec : s.exec settings t (.plain (.store (.createTasks tasks))) env = (r, s')) :
    (hosts settings).guar t s s' := by
  refine guar_of_referenced hexec ?_
  have hworld := @referenced_plain settings Unit env s (.store (.createTasks tasks)) hs ?_
  · have hs' : s' = { s with
        world := (World.exec settings env (.store (.createTasks tasks)) s.world).2,
        looked := HostWorld.others t s.looked } := (Prod.mk.inj hexec).2.symm
    subst hs'
    exact referenced_marks hworld (fun m hm => .inl (mem_others.mp hm).1) fun m hm => .inl hm
  · intro task htask hid hhost
    refine ⟨hs.looked _ (hfound task htask hid hhost), ?_⟩
    rintro m hm rfl
    exact hcareful task htask m hm hhost

end HostLemmas

/-! ## The programs -/

/-- The thread has found the hosts. -/
def Found (t : ThreadId) (hids : List String) (s : HostWorld) : Prop :=
  ∀ hid ∈ hids, (t, hid) ∈ s.looked

namespace HostLemmas

open QuietLemmas

variable {settings : Settings} {α : Type} {s : HostWorld} {t : ThreadId}

theorem submitless_of_silent {β : Type} (a : Act β) (h : a.Silent) : a.Submitless :=
  Act.Undispatched.submitless a (Act.Quiet.undispatched a (Act.Silent.quiet a h))

/-- A program that submits nothing keeps the contract. -/
theorem plain_safe {p : Program Unit} (hp : p.All Act.Submitless) :
    Safe (hosts settings) t (p.embed HostAct.plain) (fun _ _ => True) s := by
  refine Safe.embed (Safe.of_all (P := fun _ => True) (fun _ _ _ _ => trivial) ?_ hp trivial)
  intro β a ha s hinv _
  exact ⟨trivial, fun env r s' _ hexec => ⟨plain_step ha hinv hexec, trivial⟩⟩

/-- The contract of a submission. -/
abbrev submission (settings : Settings) := (hosts settings).restrict HostAct.submitting

theorem found_stable (hids : List String) : Stable (submission settings) t (Found t hids) :=
  fun _ _ hP hrely hid hhid => (hrely (t, hid) rfl).1 (hP hid hhid)

theorem found_kept {a : Act α} (ha : a.Submitless) {env : Env} {r : Except PyErr α} {s' : HostWorld}
    {hids : List String} (hP : Found t hids s)
    (hexec : s.exec settings t (HostAct.submitting a) env = (r, s')) : Found t hids s' := by
  refine fun hid hhid => exec_looked (fun a' ha' => ?_) hexec (hP hid hhid)
  cases a with
  | store q =>
    cases q with
    | createTasks => exact ha.elim
    | getHost => cases ha'
    | _ =>
      cases ha'
      rfl
  | _ =>
    cases ha'
    rfl

theorem submitting_step {a : Act α} (ha : a.Submitless) (hs : Referenced s) {env : Env}
    {r : Except PyErr α} {s' : HostWorld}
    (hexec : s.exec settings t (HostAct.submitting a) env = (r, s')) :
    (hosts settings).guar t s s' := by
  cases a with
  | store q =>
    cases q with
    | getHost hid => exact (lookUp_step hs hexec).1
    | _ => exact plain_step ha hs hexec
  | _ => exact plain_step ha hs hexec

theorem found_neutral (hids : List String) :
    Neutral (submission settings) t Act.Submitless (Found t hids) :=
  fun _ ha _ hinv hP => ⟨trivial, fun _ _ _ _ hexec =>
    ⟨submitting_step ha hinv hexec, found_kept ha hP hexec⟩⟩

/-- A program that submits nothing keeps the hosts that were found. -/
theorem silent_safe_found {p : Program α} (hp : p.All Act.Silent) {hids : List String}
    (h : Found t hids s) : Safe (submission settings) t p (fun _ => Found t hids) s :=
  Safe.of_all (found_stable hids) (found_neutral hids) (hp.mono submitless_of_silent) h

theorem found_nil : Found t [] s := fun _ h => absurd h List.not_mem_nil

theorem getHost_found (hid : String) : Safe (submission settings) t (store (.getHost hid))
    (fun r s => ∀ host, r = .ok (some host) → (t, hid) ∈ s.looked) s := by
  refine Safe.call fun s₁ _ hinv => ⟨trivial, fun env r s₂ _ hexec => ?_⟩
  exact lookUp_step hinv hexec

/-- The host of an item that is accepted was found. -/
theorem validateRuntime_found (item : TaskCreate) :
    Safe (submission settings) t (validateRuntime item)
      (fun r s => r = .ok () → Found t (nonEmpty? item.targetHost).toList s) s := by
  unfold validateRuntime
  split
  · next hhost =>
    rw [hhost]
    have hsilent : (badRequestOf (Runtime.get item.runtime) >>= fun _ => pure () :
        Program Unit).All Act.Silent := silent_bind (silent_badRequestOf _) fun _ => trivial
    exact (silent_safe_found hsilent found_nil).mono fun r s h _ => h
  · next hid hhost =>
    rw [hhost]
    have herr (e : PyErr) (s : HostWorld) (h : (.error e : Except PyErr Unit) = .ok ()) :
        Found t [hid] s := by cases h
    refine Safe.seq (silent_safe_found (silent_checkId _ _) found_nil) (fun _ s _ => ?_)
      fun e s _ => herr e s
    refine Safe.seq (getHost_found hid) (fun host s hlooked => ?_) fun e s _ => herr e s
    cases host with
    | none => exact herr _ s
    | some host =>
      have hfound : Found t [hid] s := by
        intro hid' hhid'
        rw [List.mem_singleton.mp hhid']
        exact hlooked host rfl
      refine (silent_safe_found ?_ hfound).mono fun r s h _ => h
      refine silent_bind (silent_badRequestOf _) fun rt => ?_
      split <;> trivial

/-- The task of an item that is accepted has a host that was found. -/
theorem validateTaskCreate_found (pid : String) (item : TaskCreate) :
    Safe (submission settings) t (validateTaskCreate settings pid item)
      (fun r s => ∀ task, r = .ok task → Found t task.host?.toList s) s := by
  have herr (e : PyErr) (s : HostWorld) (task : Task)
      (h : (.error e : Except PyErr Task) = .ok task) : Found t task.host?.toList s := by cases h
  unfold validateTaskCreate
  refine Safe.seq (silent_safe_found (silent_checkId _ _) found_nil) (fun _ s _ => ?_)
    fun e s _ => herr e s
  refine Safe.seq (validateRuntime_found item) (fun _ s hfound => ?_) fun e s _ => herr e s
  refine Safe.seq (silent_safe_found (validateResource_silent item) (hfound rfl)) (fun _ s hfound => ?_)
    fun e s _ => herr e s
  refine Safe.seq (silent_safe_found (validateEvaluator_silent item) hfound) (fun _ s hfound => ?_)
    fun e s _ => herr e s
  refine Safe.seq (silent_safe_found (validateMetadata_silent settings item) hfound)
    (fun _ s hfound => ?_) fun e s _ => herr e s
  have hnow : (call .now : Program String).All Act.Silent := silent_call trivial
  refine Safe.seq (silent_safe_found hnow hfound) (fun _ s hfound => ?_) fun e s _ => herr e s
  rintro task ⟨⟩
  exact hfound

theorem validateAll_found (pid : String) (items : List TaskCreate) :
    Safe (submission settings) t (validateAll settings pid items)
      (fun r s => ∀ tasks, r = .ok tasks → ∀ task ∈ tasks, Found t task.host?.toList s) s := by
  have herr (e : PyErr) (s : HostWorld) (tasks : List Task)
      (h : (.error e : Except PyErr (List Task)) = .ok tasks) :
      ∀ task ∈ tasks, Found t task.host?.toList s := by cases h
  induction items generalizing s with
  | nil =>
    rintro tasks ⟨⟩ task htask
    exact absurd htask List.not_mem_nil
  | cons item items ih =>
    refine Safe.seq (validateTaskCreate_found pid item) (fun task s hfound => ?_) fun e s _ => herr e s
    refine Safe.seq (Safe.and_all (found_stable _) ?_ (validateAll_silent settings pid items) ih
      (hfound task rfl)) (fun tasks s hall => ?_) fun e s _ => herr e s
    · exact fun a ha env s r s' hP hexec => found_kept (submitless_of_silent a ha) hP hexec
    · rintro tasks' ⟨⟩ task' htask'
      rcases List.mem_cons.mp htask' with rfl | htask'
      · exact hall.2
      · exact hall.1 tasks rfl task' htask'

theorem insert_safe {tasks : List Task} (h : ∀ task ∈ tasks, Found t task.host?.toList s) :
    Safe (submission settings) t (store (.createTasks tasks)) (fun _ _ => True) s := by
  refine Safe.call fun s₁ hrely hinv => ⟨trivial, fun env r s₂ hcareful hexec => ⟨?_, trivial⟩⟩
  have hfound : ∀ task ∈ tasks, ∀ hid, task.host? = some hid → (t, hid) ∈ s₁.looked := by
    intro task htask hid hhost
    refine (hrely (t, hid) rfl).1 (h task htask hid ?_)
    rw [hhost]
    exact List.mem_singleton_self hid
  have hinsert : (HostAct.plain (.store (.createTasks tasks))).Careful s₁ := hcareful
  exact createTasks_step hinv hfound hinsert hexec

theorem quiet_safe {p : Program α} (hp : p.All Act.Quiet) :
    Safe (submission settings) t p (fun _ _ => True) s := by
  refine Safe.mono (Safe.of_all (found_stable []) (found_neutral []) (hp.mono fun a ha => ?_) found_nil)
    fun _ _ _ => trivial
  exact Act.Undispatched.submitless a (Act.Quiet.undispatched a ha)

theorem silent_safe_any {p : Program α} (hp : p.All Act.Silent) :
    Safe (submission settings) t p (fun _ _ => True) s := quiet_safe (quiet_of_silent hp)

theorem createTasks_safe (pid : String) (items : List TaskCreate) :
    Safe (submission settings) t (createTasks settings pid items) (fun _ _ => True) s := by
  unfold createTasks
  refine Safe.seq (silent_safe_any (silent_checkId _ _)) (fun _ s _ => ?_) fun _ _ _ => trivial
  split
  · trivial
  split
  · trivial
  refine Safe.seq (silent_safe_any (silent_store trivial)) (fun project s _ => ?_) fun _ _ _ => trivial
  cases project with
  | none => trivial
  | some _ =>
    dsimp only
    split
    · trivial
    refine Safe.seq (silent_safe_any (silent_store trivial)) (fun existing s _ => ?_)
      fun _ _ _ => trivial
    split
    · trivial
    refine Safe.seq (validateAll_found pid items) (fun prepared s hfound => ?_) fun _ _ _ => trivial
    refine Safe.seq (Safe.attempt (R := fun _ _ => True) (insert_safe (hfound prepared rfl)))
      (fun created s _ => ?_) fun _ _ _ => trivial
    cases created with
    | error exc =>
      dsimp only
      split <;> trivial
    | ok _ =>
      exact Safe.seq (quiet_safe (publishCreated_quiet _)) (fun _ _ _ => trivial) fun _ _ _ => trivial

theorem deleteHost_safe (hid : String) :
    Safe (hosts settings) t (deleteHostRequest hid) (fun _ _ => True) s := by
  have hread : ∀ s, Safe (hosts settings) t (call (.plain (.store (.getHost hid))))
      (fun _ _ => True) s := fun s => Safe.call fun s₁ _ hinv => ⟨trivial, fun env r s₂ _ hexec =>
    ⟨plain_step (a := .store (.getHost hid)) trivial hinv hexec, trivial⟩⟩
  have hask : ∀ s, Safe (hosts settings) t (call (.hostHasActiveTasks hid))
      (fun r s => r = .ok false → (t, hid) ∈ s.asked) s := by
    refine fun s => Safe.call fun s₁ _ hinv => ⟨trivial, fun env r s₂ hcareful hexec => ?_⟩
    have hask : (HostAct.hostHasActiveTasks hid).Careful s₁ := hcareful
    exact hostHasActiveTasks_step hinv hask hexec
  unfold deleteHostRequest
  refine Safe.seq (hread s) (fun host s _ => ?_) fun _ _ _ => trivial
  cases host with
  | none => trivial
  | some _ =>
    refine Safe.seq (hask s) (fun active s hasked => ?_) fun _ _ _ => trivial
    cases active with
    | true => trivial
    | false =>
      refine Safe.call fun s₁ hrely hinv => ⟨trivial, fun env r s₂ hcareful hexec => ⟨?_, trivial⟩⟩
      exact deleteHost_step hinv ((hrely (t, hid) rfl).2 (hasked rfl)) hcareful hexec

theorem finishes (s : HostWorld) : (hosts settings).Finishes t s := by
  intro hs
  refine ⟨referenced_marks hs (fun m hm => .inl (mem_others.mp hm).1)
    fun m hm => .inl (mem_others.mp hm).1, trivial, fun t' hne m hm => ?_⟩
  have hother : m.1 ≠ t := fun h => hne (hm.symm.trans h)
  exact ⟨fun h => mem_others.mpr ⟨h, hother⟩, fun h => mem_others.mpr ⟨h, hother⟩⟩

theorem hosts_sound (settings : Settings) : (hosts settings).Sound (fun _ => True) True where
  safe := by
    intro op _ t s _ _
    have hdone : ∀ {p : Prog HostAct PyErr Unit}, Safe (hosts settings) t p (fun _ _ => True) s →
        Safe (hosts settings) t p (fun _ => (hosts settings).Finishes t) s :=
      fun h => h.mono fun _ s _ => finishes s
    refine hdone ?_
    cases op with
    | plain op =>
      by_cases hsubmit : ∃ pid tasks, op = .createTasks pid tasks
      · obtain ⟨pid, tasks, rfl⟩ := hsubmit
        refine Safe.embed (Safe.seq (createTasks_safe pid tasks) (fun _ _ _ => trivial) ?_)
        exact fun _ _ _ => trivial
      · have hplain : (HostOp.plain op).program settings = (op.program settings).embed .plain := by
          cases op with
          | createTasks pid tasks => exact absurd ⟨pid, tasks, rfl⟩ hsubmit
          | _ => rfl
        have hprogram := @plain_safe settings s t (op.program settings)
          (program_submitless fun pid tasks heq => hsubmit ⟨pid, tasks, heq⟩)
        change Safe (hosts settings) t ((HostOp.plain op).program settings) (fun _ _ => True) s
        rw [hplain]
        exact hprogram
    | setTaskState tid newState expected =>
      exact plain_safe (Prog.All.bind (Prog.all_call.mpr trivial) fun _ => trivial)
    | deleteHost hid => exact deleteHost_safe hid
  restart := by
    intro _ s hs
    exact ⟨⟨hs.rows, fun m hm => absurd hm List.not_mem_nil, fun m hm => absurd hm List.not_mem_nil⟩,
      fun _ => trivial⟩

end HostLemmas

/-! ## Runs -/

/-- The actions of the run are careful. -/
def CarefulEvent (c : Config HostAct PyErr HostWorld) (ev : Threads.Event Env HostOp) : Prop :=
  Config.Allows (fun a s => HostAct.Careful a s) c ev

instance (c : Config HostAct PyErr HostWorld) (ev : Threads.Event Env HostOp) :
    Decidable (CarefulEvent c ev) :=
  inferInstanceAs (Decidable (Config.Allows (fun a s => HostAct.Careful a s) c ev))

open HostLemmas in
/-- In a run of careful actions, every task that can be dispatched has its host. -/
theorem hosts_valid (settings : Settings) (events : List (Threads.Event Env HostOp))
    (hcareful : Config.Along (hostProcess settings) CarefulEvent events
      (Config.initial (.boot .init))) :
    HostsValid (Config.run (hostProcess settings) events (Config.initial (.boot .init))).shared.world.db := by
  have hinit : (hosts settings).Holds (Config.initial (.boot .init)) := by
    refine Contract.holds_initial ⟨?_, ?_, ?_⟩ fun _ => trivial <;>
      exact fun _ h => absurd h List.not_mem_nil
  refine ((hosts_sound settings).holds_run (Config.along_mono (fun c ev hok => ?_) hcareful) hinit).inv.valid
  cases ev with
  | spawn op => trivial
  | step t env => exact hok
  | restart => trivial

/-! ## A deletion between the check and the insert -/

/-- A host and a project. -/
def hostSetup : List (Threads.Event Env HostOp) :=
  [.spawn (.plain (.createHost { id := "h", sshAlias := "h", remoteRoot := "/work" })), .step 0 {},
    .spawn (.plain (.createProject { id := "p", name := "p" })), .step 1 {}]

/-- Some steps of a thread. -/
def hostSteps (t : ThreadId) (n : Nat) : List (Threads.Event Env HostOp) :=
  List.replicate n (.step t {})

/-- A task for the host is submitted. -/
def hostPost : Threads.Event Env HostOp :=
  .spawn (.plain (.createTasks "p" [{ id := "t", name := "t", spec := "s", targetHost := some "h" }]))

/-- The host is deleted after the submission has found it. -/
def deletedMeanwhile : List (Threads.Event Env HostOp) :=
  hostSetup ++ hostPost :: hostSteps 2 5 ++ .spawn (.deleteHost "h") :: hostSteps 3 3 ++ hostSteps 2 2

/-- The host is deleted while its task is lost, and the task is requeued. -/
def deletedWhileLost : List (Threads.Event Env HostOp) :=
  hostSetup ++ hostPost :: hostSteps 2 7 ++
    [.spawn (.setTaskState "t" "DISPATCHING" none), .step 3 {},
      .spawn (.setTaskState "t" "LOST" none), .step 4 {}] ++
    .spawn (.deleteHost "h") :: hostSteps 5 3 ++ [.spawn (.setTaskState "t" "QUEUED" none), .step 6 {}]

theorem deleted_host_referenced :
    (¬ HostsValid (Config.run (hostProcess {}) deletedMeanwhile
        (Config.initial (.boot .init))).shared.world.db) ∧
      ¬ HostsValid (Config.run (hostProcess {}) deletedWhileLost
        (Config.initial (.boot .init))).shared.world.db := by
  decide +kernel

/-- A deletion during the task's life is refused, one after its end is not. -/
def deletedAtEnd : List (Threads.Event Env HostOp) :=
  hostSetup ++ hostPost :: hostSteps 2 7 ++ .spawn (.deleteHost "h") :: hostSteps 3 3 ++
    [.spawn (.setTaskState "t" "CANCELLED" none), .step 4 {}] ++
    .spawn (.deleteHost "h") :: hostSteps 5 3

theorem host_deleted_at_end :
    HostsValid (Config.run (hostProcess {}) deletedAtEnd
      (Config.initial (.boot .init))).shared.world.db :=
  hosts_valid {} deletedAtEnd (by decide +kernel)

end Flotilla
