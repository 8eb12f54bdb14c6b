import KerSorMonitor.Flotilla.Rows
import KerSorMonitor.Flotilla.Transactions

/-!
# The store over its rows (`flotilla/store.py`)

The methods of `Store`, statement by statement, on tables of SQLite rows: the conditions compare
columns, `rowcount` counts rows, and what is returned is made of rows again. `Store` says the same of
the records; `SqlRefinement` connects the two.

The states that are written are those of the table, so the `CHECK` is met. Integers are in the range
of SQLite.
-/

namespace Flotilla

open Sql

namespace Rows

/-- The tables of the database file. -/
structure Database where
  project : List (Row ProjectColumn) := []
  task : List (Row TaskColumn) := []
  worker : List (Row WorkerColumn) := []
  event : List (Row EventColumn) := []
  host : List (Row HostColumn) := []
  /-- `sqlite_sequence`. -/
  eventSeq : Nat := 0

/-- `_connection`: commit on success, roll back when the body raises. -/
def connection {α : Type} (body : Database → Except PyErr α × Database) (db : Database) :
    Except PyErr α × Database :=
  match body db with
  | (.ok a, db') => (.ok a, db')
  | (.error e, _) => (.error e, db)

/-- A statement that may violate a constraint. -/
def executing (statement : Database → Except PyErr Database) : Database → Except PyErr Unit × Database :=
  connection fun db =>
    match statement db with
    | .error e => (.error e, db)
    | .ok db' => (.ok (), db')

/-- `WHERE id=?` or a reference to it: some row has the value in the column. -/
def hasRow {C : Type} (rows : List (Row C)) (c : C) (value : Value) : Bool :=
  rows.any fun r => (r c).eq value

/-- `SELECT * FROM ... WHERE id=?`, `fetchone()`. -/
def fetch {C : Type} (rows : List (Row C)) (c : C) (value : Value) : Option (Row C) :=
  rows.find? fun r => (r c).eq value

/-- `..._from_row(row) if row else None`. -/
def fetched {C α : Type} (fromRow : Row C → Except PyErr α) : Option (Row C) → Except PyErr (Option α)
  | none => .ok none
  | some r => (fromRow r).map some

/-! ## Projects and hosts -/

/-- `create_project`: `ON CONFLICT(id) DO NOTHING`. -/
def createProject (p : ProjectRecord) : Database → Except PyErr Bool × Database :=
  connection fun db =>
    let r := insert projectColumns (projectValues p)
    if hasRow db.project .id (r .id) then (.ok false, db)
    else (.ok true, { db with project := db.project ++ [r] })

/-- `get_project`. -/
def getProject (limits : PyJson.Limits) (pid : String) (db : Database) :
    Except PyErr (Option ProjectRecord) :=
  fetched (projectFromRow limits) (fetch db.project .id (.text pid))

def insertHost (h : HostRecord) (db : Database) : Except PyErr Database :=
  let r := insert hostColumns (hostValues h)
  if hasRow db.host .id (r .id) then .error (Db.uniqueFailed "host.id")
  else .ok { db with host := db.host ++ [r] }

/-- `create_host`. -/
def createHost (h : HostRecord) : Database → Except PyErr Unit × Database :=
  executing (insertHost h)

/-- `get_host`. -/
def getHost (hid : String) (db : Database) : Except PyErr (Option HostRecord) :=
  fetched hostFromRow (fetch db.host .id (.text hid))

/-! ## Tasks -/

def insertTask (t : Task) (db : Database) : Except PyErr Database :=
  let r := insert taskColumns (taskValues t)
  if hasRow db.task .id (r .id) then .error (Db.uniqueFailed "task.id")
  else if hasRow db.project .id (r .projectId) then .ok { db with task := db.task ++ [r] }
  else .error Db.foreignKeyFailed

/-- `executemany`. -/
def insertTasks : List Task → Database → Except PyErr Database
  | [], db => .ok db
  | t :: ts, db => insertTask t db >>= insertTasks ts

/-- `create_tasks`. -/
def createTasks (tasks : List Task) : Database → Except PyErr Unit × Database :=
  if tasks.isEmpty then fun db => (.ok (), db) else executing (insertTasks tasks)

/-- `get_task`. -/
def getTask (limits : PyJson.Limits) (tid : TaskId) (db : Database) : Except PyErr (Option Task) :=
  fetched (taskFromRow limits) (fetch db.task .id (.text tid))

/-- `all_tasks`. -/
def allTasks (limits : PyJson.Limits) (db : Database) : Except PyErr (List Task) :=
  (db.task.insertionSort fun a b => orderBy [.id] a b = true).mapM (taskFromRow limits)

/-- `existing_task_ids`. The set that is returned is listed in the order of `ids`. -/
def existingTaskIds (ids : List TaskId) (db : Database) : List TaskId :=
  let found := (db.task.filter fun r => ids.any fun tid => (r .id).eq (.text tid)).map fun r => r .id
  ids.filter fun tid => found.contains (.text tid)

/-- `transition`, from the value of the column. -/
def transitionFrom (current : Value) (target : String) : Except PyErr TaskState := do
  transition (← stateField current) target

/-- `WHERE id=? AND state=?`. -/
def inState (tid state : Value) (r : Row TaskColumn) : Bool :=
  (r .id).eq tid && (r .state).eq state

/-- `set_task_state`. -/
def setTaskState (now : String) (tid : TaskId) (newState : String)
    (expected : Option (List TaskState)) : Database → Except PyErr Bool × Database :=
  connection fun db =>
    match fetch db.task .id (.text tid) with
    | none => (.ok false, db)
    | some row =>
      let current := row .state
      if expected.any fun set => !(set.map fun st => Value.text st.name).contains current then
        (.ok false, db)
      else
        match transitionFrom current newState with
        | .error e => (.error e, db)
        | .ok _ =>
          let (rowcount, rows) := updateWhere db.task (inState (.text tid) current)
            [(.state, .text newState), (.updatedAt, .text now)]
          (.ok (rowcount = 1), { db with task := rows })

/-- `release_task_claim`. -/
def releaseTaskClaim (now : String) (tid : TaskId) (target : String) :
    Database → Except PyErr Bool × Database :=
  setTaskState now tid target (some [.dispatching])

/-- The loop of `claim_queued_tasks` over the selected rows. -/
def claimRows (limits : PyJson.Limits) (now : String) :
    List (Row TaskColumn) → Database → Except PyErr (List Task) × Database
  | [], db => (.ok [], db)
  | row :: rows, db =>
    let (rowcount, tasks) := updateWhere db.task (inState (row .id) (.text "QUEUED"))
      [(.state, .text "DISPATCHING"), (.updatedAt, .text now)]
    let (rest, db') := claimRows limits now rows { db with task := tasks }
    if rowcount = 1 then
      (do
        let task ← taskFromRow limits row
        return { task with state := .dispatching, updatedAt := now } :: (← rest), db')
    else (rest, db')

/-- `claim_queued_tasks`. -/
def claimQueuedTasks (limits : PyJson.Limits) (now : String) (maxActive : Int) :
    Database → Except PyErr (List Task) × Database :=
  if maxActive ≤ 0 then fun db => (.ok [], db)
  else connection fun db =>
    let active := db.worker.countP fun r => (r .endedAt).isNull
    let dispatching := db.task.countP fun r => (r .state).eq (.text "DISPATCHING")
    let capacity := maxActive - active - dispatching
    if capacity ≤ 0 then (.ok [], db)
    else
      let queued := (db.task.filter fun r => (r .state).eq (.text "QUEUED")).insertionSort
        fun a b => orderBy [.updatedAt, .id] a b = true
      claimRows limits now (queued.take capacity.toNat) db

/-- `INSERT INTO event(task_id,type,payload,ts)`. -/
def insertEvent (e : Event) (db : Database) : Except PyErr Database :=
  let r := update [(.id, .integer (db.eventSeq + 1 : Nat))] (insert eventColumns (eventValues e))
  if hasRow db.task .id (r .taskId) then
    .ok { db with event := db.event ++ [r], eventSeq := db.eventSeq + 1 }
  else .error Db.foreignKeyFailed

/-- The payload of the event of a claim that has expired. -/
def lostPayload : JsonObj := [("reason", .str "dispatch lease expired")]

def lostEvent (now : String) (tid : TaskId) : Event := ⟨tid, "dispatch_lost", lostPayload, now⟩

/-- The loop of `mark_stale_dispatching_lost` over the selected ids. -/
def markLost (now : String) : List TaskId → Database → Except PyErr Database
  | [], db => .ok db
  | tid :: ids, db =>
    let (_, rows) := updateWhere db.task (inState (.text tid) (.text "DISPATCHING"))
      [(.state, .text "LOST"), (.updatedAt, .text now)]
    insertEvent (lostEvent now tid) { db with task := rows } >>= markLost now ids

/-- `mark_stale_dispatching_lost`. -/
def markStaleDispatchingLost (now cutoff : String) :
    Database → Except PyErr (List TaskId) × Database :=
  connection fun db =>
    let stale := (db.task.filter fun r =>
      (r .state).eq (.text "DISPATCHING") && (r .updatedAt).lt (.text cutoff)).insertionSort
        fun a b => orderBy [.id] a b = true
    match stale.mapM fun r => strField (r .id) with
    | .error e => (.error e, db)
    | .ok ids =>
      match markLost now ids db with
      | .error e => (.error e, db)
      | .ok db' => (.ok ids, db')

def insertWorker (w : WorkerRecord) (db : Database) : Except PyErr Database :=
  let r := insert workerColumns (workerValues w)
  if hasRow db.worker .id (r .id) then .error (Db.uniqueFailed "worker.id")
  else if hasRow db.task .id (r .taskId) then .ok { db with worker := db.worker ++ [r] }
  else .error Db.foreignKeyFailed

/-- `activate_worker`. -/
def activateWorker (now : String) (tid : TaskId) (worker : WorkerRecord) (workspace : String) :
    Database → Except PyErr Bool × Database :=
  connection fun db =>
    match fetch db.task .id (.text tid) with
    | none => (.ok false, db)
    | some row =>
      if row .state ≠ .text "DISPATCHING" then (.ok false, db)
      else
        match transitionFrom (row .state) "RUNNING" with
        | .error e => (.error e, db)
        | .ok _ =>
          match insertWorker worker db with
          | .error e => (.error e, db)
          | .ok db' =>
            let (rowcount, rows) := updateWhere db'.task (inState (.text tid) (.text "DISPATCHING"))
              [(.state, .text "RUNNING"), (.workspacePath, .text workspace), (.updatedAt, .text now)]
            if rowcount ≠ 1 then
              (.error ⟨.runtimeError, "task " ++ tid ++ " lost its dispatch claim"⟩, db')
            else (.ok true, { db' with task := rows })

/-- `UPDATE worker SET ended_at=? WHERE id=? AND ended_at IS NULL`. -/
def endWorkerRow (now : String) (wid : String) (db : Database) : Database :=
  { db with worker := (updateWhere db.worker
      (fun r => (r .id).eq (.text wid) && (r .endedAt).isNull) [(.endedAt, .text now)]).2 }

/-- `if worker_id: UPDATE worker ...`. -/
def endWorkerIf (now : String) (workerId : Option String) (db : Database) : Database :=
  match workerId with
  | none => db
  | some wid => if wid = "" then db else endWorkerRow now wid db

/-- `finish_worker`. -/
def finishWorker (now : String) (tid : TaskId) (workerId : Option String) (terminalState : String)
    (event : Option Event) : Database → Except PyErr Bool × Database :=
  connection fun db =>
    match fetch db.task .id (.text tid) with
    | none => (.ok false, db)
    | some row =>
      let current := row .state
      match transitionFrom current terminalState with
      | .error e => (.error e, db)
      | .ok _ =>
        let (_, rows) := updateWhere db.task (inState (.text tid) current)
          [(.state, .text terminalState), (.updatedAt, .text now)]
        let db₁ := endWorkerIf now workerId { db with task := rows }
        match event with
        | none => (.ok true, db₁)
        | some e =>
          match insertEvent e db₁ with
          | .error err => (.error err, db₁)
          | .ok db₂ => (.ok true, db₂)

/-- `delete_task`; no row of `resource_lock` is ever written. -/
def deleteTask (tid : TaskId) : Database → Except PyErr Unit × Database :=
  connection fun db => (.ok (), { db with
    event := db.event.filter fun r => !(r .taskId).eq (.text tid)
    worker := db.worker.filter fun r => !(r .taskId).eq (.text tid)
    task := db.task.filter fun r => !(r .id).eq (.text tid) })

/-! ## Workers -/

/-- `active_worker_id`. -/
def activeWorkerId (tid : TaskId) (db : Database) : Except PyErr (Option WorkerId) :=
  fetched (fun r => workerIdField (r .id)) <| List.head? <|
    (db.worker.filter fun r => (r .taskId).eq (.text tid) && (r .endedAt).isNull).insertionSort
      fun a b => orderByDesc .startedAt a b = true

/-- `create_worker`. -/
def createWorker (w : WorkerRecord) : Database → Except PyErr Unit × Database :=
  executing (insertWorker w)

/-- `get_worker`. -/
def getWorker (limits : PyJson.Limits) (wid : String) (db : Database) :
    Except PyErr (Option WorkerRecord) :=
  fetched (workerFromRow limits) (fetch db.worker .id (.text wid))

/-- `end_worker`. -/
def endWorker (now : String) (wid : String) : Database → Except PyErr Unit × Database :=
  connection fun db => (.ok (), endWorkerRow now wid db)

/-- `set_worker_session_uuid`. -/
def setWorkerSessionUuid (wid uuid : String) : Database → Except PyErr Unit × Database :=
  connection fun db => (.ok (), { db with worker :=
    (updateWhere db.worker (fun r => (r .id).eq (.text wid)) [(.sessionUuid, .text uuid)]).2 })

/-! ## Events -/

/-- `WHERE task_id=? AND type='status'`. -/
def isStatus (tid : TaskId) (r : Row EventColumn) : Bool :=
  (r .taskId).eq (.text tid) && (r .type).eq (.text "status")

/-- The status events of a task, `ORDER BY id DESC`. -/
def statusRowsDesc (tid : TaskId) (db : Database) : List (Row EventColumn) :=
  (db.event.filter (isStatus tid)).insertionSort fun a b => orderByDesc .id a b = true

/-- `COALESCE((SELECT id ... ORDER BY id DESC LIMIT 1 OFFSET ?), -1)`. -/
def lastDropped (tid : TaskId) (retention : Nat) (db : Database) : Value :=
  (statusRowsDesc tid db)[retention]?.elim (.integer (-1)) fun r => r .id

/-- `append_event`. -/
def appendEvent (settings : Settings) (e : Event) : Database → Except PyErr Unit × Database :=
  executing fun db => do
    let db₁ ← insertEvent e db
    if e.type = "status" then
      let last := lastDropped e.taskId (max 1 settings.statusEventRetention).toNat db₁
      return { db₁ with event := db₁.event.filter fun r =>
        !(isStatus e.taskId r && (r .id).le last) }
    else return db₁

/-- `status_events`. -/
def statusEvents (limits : PyJson.Limits) (tid : TaskId) (limit : Nat) (db : Database) :
    Except PyErr (List EventRow) :=
  ((statusRowsDesc tid db).take limit).reverse.mapM (eventFromRow limits)

/-! ## Transactions -/

/-- The fields of the records of a call that the rows have and `Models` does not. -/
structure Rest where
  config : JsonObj := []
  extra : JsonObj := []
  gpu : Option String := none
  notes : String := ""
  createdAt : String := ""

/-- A method that only reads. -/
def reading {α : Type} (f : Database → Except PyErr α) (db : Database) :
    Except PyErr α × Database := (f db, db)

/-- What a call does to the rows. -/
def exec (settings : Settings) (clock : Clock) (rest : Rest) :
    {α : Type} → Transaction α → Database → Except PyErr α × Database
  | _, .createProject p => createProject ⟨p, rest.config⟩
  | _, .getProject pid => reading fun db =>
    (getProject settings.limits pid db).map (·.map ProjectRecord.toProject)
  | _, .createHost h => createHost ⟨h, rest.gpu, rest.notes, rest.createdAt⟩
  | _, .getHost hid => reading fun db => (getHost hid db).map (·.map HostRecord.toHost)
  | _, .createTasks tasks => createTasks tasks
  | _, .existingTaskIds ids => reading fun db => .ok (existingTaskIds ids db)
  | _, .getTask tid => reading (getTask settings.limits tid)
  | _, .allTasks => reading (allTasks settings.limits)
  | _, .setTaskState tid newState expected => setTaskState clock.now tid newState expected
  | _, .claimQueuedTasks maxActive => claimQueuedTasks settings.limits clock.now maxActive
  | _, .releaseTaskClaim tid target => releaseTaskClaim clock.now tid target
  | _, .markStaleDispatchingLost => markStaleDispatchingLost clock.now clock.cutoff
  | _, .activateWorker tid worker workspace =>
    activateWorker clock.now tid ⟨worker, rest.extra⟩ workspace
  | _, .finishWorker tid workerId terminalState event =>
    finishWorker clock.now tid (workerId.map WorkerId.text) terminalState event
  | _, .deleteTask tid => deleteTask tid
  | _, .activeWorkerId tid => reading (activeWorkerId tid)
  | _, .createWorker w => createWorker ⟨w, rest.extra⟩
  | _, .getWorker wid => reading fun db =>
    (getWorker settings.limits wid.text db).map (·.map WorkerRecord.toWorker)
  | _, .endWorker wid => endWorker clock.now wid.text
  | _, .setWorkerSessionUuid wid uuid => setWorkerSessionUuid wid.text uuid
  | _, .appendEvent e => appendEvent settings e
  | _, .statusEvents tid limit => reading fun db =>
    (statusEvents settings.limits tid limit db).map (·.map EventRow.toEvent)

end Rows

end Flotilla
