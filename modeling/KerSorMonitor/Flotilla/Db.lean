import KerSorMonitor.Lib.Keyed
import KerSorMonitor.Flotilla.Models

/-!
# The database (`flotilla/db.py`)

The tables of `_SCHEMA` that the modelled code writes, with their primary keys, the foreign
keys (`PRAGMA foreign_keys=ON`) and `AUTOINCREMENT` as fields: a database that violates one
of them cannot be built. A statement that would violate a constraint raises
`sqlite3.IntegrityError`; `DELETE` of a task cascades to its workers and events.

Results:
1. `get?_updateTasks`, `get?_updateWorkers`, `get?_deleteTask`, ...: what each statement does
   to the rows of a task and of a worker.
2. `insertWorker_eq_ok`, `insertTask_eq_ok`: when an insert is accepted.
-/

namespace Flotilla

open Keyed

/-- The contents of the database file. -/
structure Db where
  project : Table Project.id
  task : Table Task.id
  worker : Table Worker.id
  event : Table EventRow.id
  host : Table Host.id
  /-- The largest event id ever used (`sqlite_sequence`). -/
  eventSeq : Nat
  task_fk : ∀ t ∈ task.rows, project.Has t.projectId
  worker_fk : ∀ w ∈ worker.rows, task.Has w.taskId
  event_fk : ∀ e ∈ event.rows, task.Has e.taskId
  event_seq : ∀ e ∈ event.rows, e.id ≤ eventSeq

namespace Db

/-- The database that `db.init` creates. -/
def init : Db where
  project := Table.empty
  task := Table.empty
  worker := Table.empty
  event := Table.empty
  host := Table.empty
  eventSeq := 0
  task_fk := fun _ h => absurd h List.not_mem_nil
  worker_fk := fun _ h => absurd h List.not_mem_nil
  event_fk := fun _ h => absurd h List.not_mem_nil
  event_seq := fun _ h => absurd h List.not_mem_nil

/-- The row of task `tid`. -/
def task? (db : Db) (tid : TaskId) : Option Task := db.task.get? tid

/-- The state of the row of task `tid`. -/
def state? (db : Db) (tid : TaskId) : Option TaskState := (db.task? tid).map Task.state

/-- The row of worker `wid`. -/
def worker? (db : Db) (wid : WorkerId) : Option Worker := db.worker.get? wid

/-- The events of task `tid`, oldest first. -/
def events (db : Db) (tid : TaskId) : List Event :=
  (db.event.rows.filter fun e => e.taskId = tid).map EventRow.toEvent

/-! ## Statements -/

def uniqueFailed (column : String) : PyErr :=
  ⟨.integrityError, "UNIQUE constraint failed: " ++ column⟩

def foreignKeyFailed : PyErr := ⟨.integrityError, "FOREIGN KEY constraint failed"⟩

/-- `INSERT INTO project ... ON CONFLICT(id) DO NOTHING`: whether a row was inserted. -/
def insertProject (db : Db) (p : Project) : Bool × Db :=
  if hu : db.project.Has p.id then (false, db)
  else (true, { db with
    project := db.project.insert p hu
    task_fk := fun t ht => by
      obtain ⟨p', hp', hk⟩ := db.task_fk t ht
      exact ⟨p', Table.mem_rows_insert.mpr (Or.inl hp'), hk⟩ })

/-- `INSERT INTO host`. -/
def insertHost (db : Db) (h : Host) : Except PyErr Db :=
  if hu : db.host.Has h.id then .error (uniqueFailed "host.id")
  else .ok { db with host := db.host.insert h hu }

/-- `INSERT INTO task`. -/
def insertTask (db : Db) (t : Task) : Except PyErr Db :=
  if hu : db.task.Has t.id then .error (uniqueFailed "task.id")
  else if hp : db.project.Has t.projectId then
    .ok { db with
      task := db.task.insert t hu
      task_fk := fun t' ht' => by
        rcases Table.mem_rows_insert.mp ht' with h | rfl
        · exact db.task_fk t' h
        · exact hp
      worker_fk := fun w hw => by
        obtain ⟨t', ht', hk⟩ := db.worker_fk w hw
        exact ⟨t', Table.mem_rows_insert.mpr (Or.inl ht'), hk⟩
      event_fk := fun e he => by
        obtain ⟨t', ht', hk⟩ := db.event_fk e he
        exact ⟨t', Table.mem_rows_insert.mpr (Or.inl ht'), hk⟩ }
  else .error foreignKeyFailed

/-- `UPDATE task SET ... WHERE p`, for columns other than `id` and `project_id`. -/
def updateTasks (db : Db) (p : Task → Bool) (f : Task → Task)
    (hid : ∀ t, (f t).id = t.id) (hproject : ∀ t, (f t).projectId = t.projectId) : Db :=
  { db with
    task := db.task.updateWhere p f fun t _ => hid t
    task_fk := fun t' ht' => by
      obtain ⟨t, ht, rfl⟩ := Table.mem_rows_updateWhere.mp ht'
      split
      · rw [hproject]; exact db.task_fk t ht
      · exact db.task_fk t ht
    worker_fk := fun w hw => Table.has_updateWhere.mpr (db.worker_fk w hw)
    event_fk := fun e he => Table.has_updateWhere.mpr (db.event_fk e he) }

/-- `UPDATE task SET state=?, updated_at=? WHERE p`. -/
def setStates (db : Db) (p : Task → Bool) (st : TaskState) (now : String) : Db :=
  db.updateTasks p (fun t => { t with state := st, updatedAt := now }) (fun _ => rfl) fun _ => rfl

/-- `INSERT INTO worker`. -/
def insertWorker (db : Db) (w : Worker) : Except PyErr Db :=
  if hu : db.worker.Has w.id then .error (uniqueFailed "worker.id")
  else if ht : db.task.Has w.taskId then
    .ok { db with
      worker := db.worker.insert w hu
      worker_fk := fun w' hw' => by
        rcases Table.mem_rows_insert.mp hw' with h | rfl
        · exact db.worker_fk w' h
        · exact ht }
  else .error foreignKeyFailed

/-- `UPDATE worker SET ... WHERE p`, for columns other than `id` and `task_id`. -/
def updateWorkers (db : Db) (p : Worker → Bool) (f : Worker → Worker)
    (hid : ∀ w, (f w).id = w.id) (htask : ∀ w, (f w).taskId = w.taskId) : Db :=
  { db with
    worker := db.worker.updateWhere p f fun w _ => hid w
    worker_fk := fun w' hw' => by
      obtain ⟨w, hw, rfl⟩ := Table.mem_rows_updateWhere.mp hw'
      split
      · rw [htask]; exact db.worker_fk w hw
      · exact db.worker_fk w hw }

/-- `UPDATE worker SET ended_at=? WHERE id=? AND ended_at IS NULL`. -/
def endWorkerRow (db : Db) (wid : WorkerId) (now : String) : Db :=
  db.updateWorkers (fun w => w.id = wid && w.isActive) (fun w => { w with endedAt := some now })
    (fun _ => rfl) fun _ => rfl

/-- `INSERT INTO event(task_id,type,payload,ts)`. -/
def insertEvent (db : Db) (e : Event) : Except PyErr Db :=
  if ht : db.task.Has e.taskId then
    .ok { db with
      event := db.event.insert { e with id := db.eventSeq + 1 } (by
        rintro ⟨e', he', hk⟩
        have hle := db.event_seq e' he'
        have hid : e'.id = db.eventSeq + 1 := hk
        omega)
      eventSeq := db.eventSeq + 1
      event_fk := fun e' he' => by
        rcases Table.mem_rows_insert.mp he' with h | rfl
        · exact db.event_fk e' h
        · exact ht
      event_seq := fun e' he' => by
        rcases Table.mem_rows_insert.mp he' with h | rfl
        · exact Nat.le_succ_of_le (db.event_seq e' h)
        · exact Nat.le_refl _ }
  else .error foreignKeyFailed

/-- `DELETE FROM event WHERE p`. -/
def deleteEvents (db : Db) (p : EventRow → Bool) : Db :=
  { db with
    event := db.event.deleteWhere p
    event_fk := fun e he => db.event_fk e (Table.mem_rows_deleteWhere.mp he).1
    event_seq := fun e he => db.event_seq e (Table.mem_rows_deleteWhere.mp he).1 }

/-- `DELETE FROM event`, `DELETE FROM worker` and `DELETE FROM task`, each for task `tid`. -/
def deleteTaskRows (db : Db) (tid : TaskId) : Db :=
  { db with
    task := db.task.deleteWhere fun t => t.id = tid
    worker := db.worker.deleteWhere fun w => w.taskId = tid
    event := db.event.deleteWhere fun e => e.taskId = tid
    task_fk := fun t ht => db.task_fk t (Table.mem_rows_deleteWhere.mp ht).1
    worker_fk := fun w hw => by
      obtain ⟨hw, hne⟩ := Table.mem_rows_deleteWhere.mp hw
      obtain ⟨t, ht, hk⟩ := db.worker_fk w hw
      refine ⟨t, Table.mem_rows_deleteWhere.mpr ⟨ht, ?_⟩, hk⟩
      rwa [hk]
    event_fk := fun e he => by
      obtain ⟨he, hne⟩ := Table.mem_rows_deleteWhere.mp he
      obtain ⟨t, ht, hk⟩ := db.event_fk e he
      refine ⟨t, Table.mem_rows_deleteWhere.mpr ⟨ht, ?_⟩, hk⟩
      rwa [hk]
    event_seq := fun e he => db.event_seq e (Table.mem_rows_deleteWhere.mp he).1 }

/-! ## What the statements do -/

@[simp] theorem setStates_worker (db : Db) (p : Task → Bool) (st : TaskState) (now : String) :
    (db.setStates p st now).worker = db.worker := rfl

@[simp] theorem setStates_event (db : Db) (p : Task → Bool) (st : TaskState) (now : String) :
    (db.setStates p st now).event = db.event := rfl

@[simp] theorem endWorkerRow_task (db : Db) (wid : WorkerId) (now : String) :
    (db.endWorkerRow wid now).task = db.task := rfl

@[simp] theorem endWorkerRow_event (db : Db) (wid : WorkerId) (now : String) :
    (db.endWorkerRow wid now).event = db.event := rfl

@[simp] theorem deleteEvents_task (db : Db) (p : EventRow → Bool) :
    (db.deleteEvents p).task = db.task := rfl

@[simp] theorem deleteEvents_worker (db : Db) (p : EventRow → Bool) :
    (db.deleteEvents p).worker = db.worker := rfl

theorem task?_setStates (db : Db) (p : Task → Bool) (st : TaskState) (now : String)
    (tid : TaskId) :
    (db.setStates p st now).task? tid =
      (db.task? tid).map fun t => if p t then { t with state := st, updatedAt := now } else t := by
  simp only [setStates, updateTasks, task?, Table.get?_updateWhere]

theorem has_setStates {db : Db} {p : Task → Bool} {st : TaskState} {now : String} {tid : TaskId} :
    (db.setStates p st now).task.Has tid ↔ db.task.Has tid := by
  simp only [setStates, updateTasks, Table.has_updateWhere]

theorem worker?_endWorkerRow (db : Db) (wid : WorkerId) (now : String) (w' : WorkerId) :
    (db.endWorkerRow wid now).worker? w' =
      (db.worker? w').map fun w =>
        if w.id = wid && w.isActive then { w with endedAt := some now } else w := by
  simp only [endWorkerRow, updateWorkers, worker?, Table.get?_updateWhere]

@[simp] theorem insertProject_task (db : Db) (p : Project) :
    (db.insertProject p).2.task = db.task := by
  unfold insertProject
  split <;> rfl

@[simp] theorem insertProject_worker (db : Db) (p : Project) :
    (db.insertProject p).2.worker = db.worker := by
  unfold insertProject
  split <;> rfl

@[simp] theorem insertProject_event (db : Db) (p : Project) :
    (db.insertProject p).2.event = db.event := by
  unfold insertProject
  split <;> rfl

theorem insertHost_eq_ok {db db' : Db} {h : Host} (hok : db.insertHost h = .ok db') :
    db'.task = db.task ∧ db'.worker = db.worker ∧ db'.event = db.event := by
  unfold insertHost at hok
  split at hok
  · cases hok
  · cases hok
    exact ⟨rfl, rfl, rfl⟩

theorem insertTask_eq_ok {db db' : Db} {t : Task} (h : db.insertTask t = .ok db') :
    db.task? t.id = none ∧ (∀ tid, db'.task? tid = if t.id = tid then some t else db.task? tid) ∧
      db'.worker = db.worker ∧ db'.event = db.event := by
  unfold insertTask at h
  split at h
  · cases h
  · next hu =>
    split at h
    · cases h
      exact ⟨Table.get?_eq_none_iff.mpr hu, fun tid => Table.get?_insert _ _ hu tid, rfl, rfl⟩
    · cases h

theorem insertWorker_eq_ok {db db' : Db} {w : Worker} (h : db.insertWorker w = .ok db') :
    ∃ hu : ¬ db.worker.Has w.id, db.task.Has w.taskId ∧ db'.worker = db.worker.insert w hu ∧
      db'.task = db.task ∧ db'.event = db.event := by
  unfold insertWorker at h
  split at h
  · cases h
  · next hu =>
    split at h
    · next ht =>
      cases h
      exact ⟨hu, ht, rfl, rfl, rfl⟩
    · cases h

theorem insertEvent_eq_ok {db db' : Db} {e : Event} (h : db.insertEvent e = .ok db') :
    db.task.Has e.taskId ∧ db'.task = db.task ∧ db'.worker = db.worker ∧
      db'.event.rows = db.event.rows ++ [{ e with id := db.eventSeq + 1 }] := by
  unfold insertEvent at h
  split at h
  · next ht =>
    cases h
    exact ⟨ht, rfl, rfl, rfl⟩
  · cases h

theorem task?_deleteTaskRows (db : Db) (tid tid' : TaskId) :
    (db.deleteTaskRows tid).task? tid' = if tid' = tid then none else db.task? tid' := by
  unfold task? deleteTaskRows
  rw [Table.get?_deleteWhere]
  cases h : db.task.get? tid' with
  | none => simp
  | some t =>
    have ht := Table.key_of_get? h
    by_cases hk : tid' = tid <;> simp [Option.filter, ht, hk]

theorem worker?_deleteTaskRows (db : Db) (tid : TaskId) (wid : WorkerId) :
    (db.deleteTaskRows tid).worker? wid = (db.worker? wid).filter fun w => w.taskId ≠ tid := by
  unfold worker? deleteTaskRows
  rw [Table.get?_deleteWhere]
  simp

end Db

end Flotilla
