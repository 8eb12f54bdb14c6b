import KerSorMonitor.Flotilla.World

/-!
# What has happened so far

No program reads the history: it records, beside the state of the process, how far each claim
of a task has come, which tasks an operation in flight has looked up, which thread retires a
task, and which worker ids were drawn and activated by whom. Conditions on runs and invariants
are stated about it.
-/

namespace Flotilla

open Keyed Threads

/-- How far the most recent claim of a task has come.

* `claimed`: claimed by a thread, which may have drawn a worker id for it.
* `registered`: the thread has registered the handle of the started worker.
* `doomed`: the thread compensates and has dropped the handle.
* `live`: the worker is activated.
* `ending`: a retirement has committed and has not dropped the handle.
* `idle`: none of these. -/
inductive Stage
  | idle
  | claimed (t : ThreadId) (wid : Option WorkerId)
  | registered (t : ThreadId) (wid : WorkerId)
  | doomed (t : ThreadId) (wid : WorkerId)
  | live (wid : WorkerId)
  | ending (t : ThreadId) (wid : WorkerId)
  deriving DecidableEq

namespace Stage

/-- The dispatcher whose claim is unresolved. -/
def claimer : Stage → Option ThreadId
  | claimed t _ | registered t _ | doomed t _ => some t
  | _ => none

/-- The worker that the most recent claim has drawn an id for. -/
def worker : Stage → Option WorkerId
  | claimed _ wid => wid
  | registered _ wid | doomed _ wid | live wid | ending _ wid => some wid
  | idle => none

end Stage

/-- The history of a run. -/
structure History where
  stage : TaskId → Stage
  /-- The most recent claim of a task: its thread, and the worker id that it drew. -/
  lastClaim : TaskId → Option (ThreadId × Option WorkerId)
  /-- The tasks that an operation in flight has looked up: in a snapshot of the registry, by
  `_running_handle` or by `get_task`. -/
  touched : ThreadId → TaskId → Bool
  /-- The thread that holds `_RETIRING` for a task. -/
  retirer : TaskId → Option ThreadId
  /-- That thread has read the worker row. -/
  blind : TaskId → Bool
  /-- The task ids that were ever created. -/
  used : TaskId → Bool
  /-- The thread that drew a worker id. -/
  drawer : WorkerId → Option ThreadId
  /-- The workers that were ever activated. -/
  activated : WorkerId → Bool
  /-- The workers that acquired a GPU and on whose behalf it was not released since. -/
  holders : String → WorkerId → Bool

/-- Overwrite a function at one point. -/
def setAt {α β : Type} [DecidableEq α] (f : α → β) (a : α) (b : β) : α → β :=
  fun x => if x = a then b else f x

@[simp] theorem setAt_same {α β : Type} [DecidableEq α] (f : α → β) (a : α) (b : β) :
    setAt f a b a = b := if_pos rfl

theorem setAt_apply {α β : Type} [DecidableEq α] (f : α → β) (a x : α) (b : β) :
    setAt f a b x = if x = a then b else f x := rfl

theorem setAt_of_ne {α β : Type} [DecidableEq α] (f : α → β) {a x : α} (b : β) (h : x ≠ a) :
    setAt f a b x = f x := if_neg h

namespace History

/-- The history of a process that has just started, on a database with the tasks of `db`. -/
def boot (db : Db) : History where
  stage := fun _ => .idle
  lastClaim := fun _ => none
  touched := fun _ _ => false
  retirer := fun _ => none
  blind := fun _ => false
  used := fun tid => decide (db.task.Has tid)
  drawer := fun _ => none
  activated := fun wid => decide (db.worker.Has wid)
  holders := fun _ _ => false

/-- Thread `t` has looked up task `tid`. -/
def touch (t : ThreadId) (tid : TaskId) (h : History) : History :=
  { h with touched := setAt h.touched t (setAt (h.touched t) tid true) }

/-- Thread `t` has claimed `tasks`. -/
def claim (t : ThreadId) (tasks : List Task) (h : History) : History :=
  { h with
    stage := fun tid => if tid ∈ tasks.map Task.id then .claimed t none else h.stage tid
    lastClaim := fun tid => if tid ∈ tasks.map Task.id then some (t, none) else h.lastClaim tid }

/-- What a committed transaction adds to the history. -/
def recordStore (t : ThreadId) : {α : Type} → Transaction α → Except PyErr α → History → History
  | _, .createTasks ts, .ok _, h =>
    { h with used := fun tid => h.used tid || decide (tid ∈ ts.map Task.id) }
  | _, .getTask tid, _, h => h.touch t tid
  | _, .claimQueuedTasks _, .ok tasks, h => h.claim t tasks
  | _, .releaseTaskClaim tid _, _, h =>
    if (h.stage tid).claimer = some t then { h with stage := setAt h.stage tid .idle } else h
  | _, .activateWorker tid worker _, .ok true, h =>
    { h with
      stage := setAt h.stage tid (.live worker.id)
      activated := setAt h.activated worker.id true }
  | _, .finishWorker tid _ _ _, .ok true, h =>
    match h.stage tid with
    | .live wid => { h with stage := setAt h.stage tid (.ending t wid) }
    | _ => h
  | _, .getWorker wid, _, h =>
    if h.retirer wid.task = some t then { h with blind := setAt h.blind wid.task true } else h
  | _, _, _, h => h

/-- Thread `t` has dropped the handle of the task that it retires. -/
def close (t : ThreadId) (tid : TaskId) (h : History) : History :=
  match h.stage tid with
  | .ending t' _ => if t' = t then { h with stage := setAt h.stage tid .idle } else h
  | _ => h

/-- What an action adds to the history. -/
def record (t : ThreadId) : {β : Type} → Act β → Except PyErr β → History → History
  | _, .store q, r, h => h.recordStore t q r
  | _, .newWorkerId tid, .ok wid, h =>
    { h with
      drawer := setAt h.drawer wid (some t)
      stage :=
        if h.stage tid = .claimed t none then setAt h.stage tid (.claimed t (some wid))
        else h.stage
      lastClaim :=
        if h.lastClaim tid = some (t, none) then setAt h.lastClaim tid (some (t, some wid))
        else h.lastClaim }
  | _, .runningHandle tid, _, h => h.touch t tid
  | _, .handlesSnapshot, .ok entries, h =>
    { h with
      touched := setAt h.touched t fun tid =>
        h.touched t tid || decide (tid ∈ entries.map Prod.fst) }
  | _, .register tid (some wid) _, _, h =>
    if h.stage tid = .claimed t (some wid) then
      { h with stage := setAt h.stage tid (.registered t wid) }
    else h
  | _, .unregister tid (.dispatcher _), _, h =>
    match h.stage tid with
    | .registered t' wid =>
      if t' = t then { h with stage := setAt h.stage tid (.doomed t wid) } else h
    | _ => h
  | _, .unregister tid _, _, h => h.close t tid
  | _, .beginRetire tid, .ok (some _), h => { h with retirer := setAt h.retirer tid (some t) }
  | _, .endRetire tid, _, h =>
    { h with retirer := setAt h.retirer tid none, blind := setAt h.blind tid false }
  | _, .acquire kind wid _, .ok (some lock), h =>
    if kind = "gpu" then
      { h with holders := setAt h.holders lock.resourceId
                 (setAt (h.holders lock.resourceId) wid true) }
    else h
  | _, .releaseId kind resourceId wid, _, h =>
    if kind = "gpu" then
      { h with holders := setAt h.holders resourceId (setAt (h.holders resourceId) wid false) }
    else h
  | _, _, _, h => h

theorem record_unregister {t : ThreadId} {tid : TaskId} {caller : Caller} {r : Except PyErr Unit}
    {h : History} (hcaller : ∀ wid, caller ≠ .dispatcher wid) :
    h.record t (.unregister tid caller) r = h.close t tid := by
  cases caller with
  | dispatcher wid => exact absurd rfl (hcaller wid)
  | _ => rfl

/-- The end of thread `t`. -/
def finish (t : ThreadId) (h : History) : History :=
  { h with touched := setAt h.touched t fun _ => false }

end History

/-- The process and its history. -/
structure Sys where
  world : World
  hist : History

namespace Sys

/-- The process after its start, on a database. -/
def boot (db : Db) : Sys := ⟨.boot db, .boot db⟩

/-- A recorded step of thread `t`. -/
def exec (settings : Settings) (t : ThreadId) {β : Type} (a : Act β) (env : Env) (s : Sys) :
    Except PyErr β × Sys :=
  let (r, w) := World.exec settings env a s.world
  (r, ⟨w, s.hist.record t a r⟩)

/-- The end of thread `t`. -/
def finish (t : ThreadId) (s : Sys) : Sys := { s with hist := s.hist.finish t }

/-- A crash of the process and its restart on the same database. The external workers
survive; the registry, the retirements and the leases (with their file descriptors) do not. -/
def restart (s : Sys) : Sys where
  world :=
    { s.world with
      handles := Table.empty
      retiring := []
      held := Table.empty
      cpuCount := 0 }
  hist :=
    { s.hist with
      stage := fun _ => .idle
      touched := fun _ _ => false
      retirer := fun _ => none
      blind := fun _ => false
      holders := fun _ _ => false }

end Sys

end Flotilla
