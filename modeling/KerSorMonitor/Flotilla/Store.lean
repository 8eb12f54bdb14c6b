import Mathlib.Data.List.Sort
import KerSorMonitor.Flotilla.Db
import KerSorMonitor.Flotilla.PyJson

/-!
# The store (`flotilla/store.py`)

Every method of `Store` is one transaction. `connection` is the context manager
`_connection`: it commits what its body did, and rolls everything back when the body
raises. SQLite serialises the writers, so a transaction is a function on the database.

The clock readings that a method takes before it opens its transaction (`now`, `cutoff`)
are arguments: they may be older than what other transactions commit in between.

Results: one specification lemma for each method that writes a task, a worker or an event
(`setTaskState_cases`, `claimQueuedTasks_spec`, `markStaleDispatchingLost_spec`,
`activateWorker_cases`, `finishWorker_cases`, `createTasks_cases`, `appendEvent_cases`). Later
modules use these and never unfold a method.
-/

namespace Flotilla

open Keyed

/-- `flotilla/config.py`, the settings that the store, the scheduler and the API read, and the
limits of the interpreter that runs them. -/
structure Settings where
  maxWorkers : Int := 4
  statusEventRetention : Int := 5000
  allowTaskBootCommand : Bool := false
  allowShellRuntime : Bool := false
  workerPingToken : String := ""
  workspacesRoot : String := "workspaces"
  tmuxSession : String := "flotilla"
  limits : PyJson.Limits := { maxDepth := 900 }

/-- `_connection`: commit on success, roll back when the body raises. -/
def connection {α : Type} (body : Db → Except PyErr α × Db) (db : Db) : Except PyErr α × Db :=
  match body db with
  | (.ok a, db') => (.ok a, db')
  | (.error e, _) => (.error e, db)

/-- A transaction that raises leaves the database as it was. -/
theorem connection_error {α : Type} {body : Db → Except PyErr α × Db} {db db' : Db} {e : PyErr}
    (h : connection body db = (.error e, db')) : db' = db := by
  unfold connection at h
  split at h
  · cases h
  · cases h; rfl

namespace Store

/-! ## Projects and hosts -/

/-- `create_project`. -/
def createProject (p : Project) : Db → Except PyErr Bool × Db :=
  connection fun db => let (inserted, db') := db.insertProject p; (.ok inserted, db')

/-- `get_project`. -/
def getProject (pid : String) (db : Db) : Option Project := db.project.get? pid

/-- `create_host`. -/
def createHost (h : Host) : Db → Except PyErr Unit × Db :=
  connection fun db =>
    match db.insertHost h with
    | .error e => (.error e, db)
    | .ok db' => (.ok (), db')

/-- `get_host`. -/
def getHost (hid : String) (db : Db) : Option Host := db.host.get? hid

/-! ## Tasks -/

def createTasksBody : List Task → Db → Except PyErr Unit × Db
  | [], db => (.ok (), db)
  | t :: ts, db =>
    match db.insertTask t with
    | .error e => (.error e, db)
    | .ok db' => createTasksBody ts db'

/-- `create_tasks`: insert a submitted batch atomically. -/
def createTasks (tasks : List Task) : Db → Except PyErr Unit × Db :=
  connection (createTasksBody tasks)

/-- `get_task`. -/
def getTask (tid : TaskId) (db : Db) : Option Task := db.task? tid

/-- `all_tasks`: `ORDER BY id`. -/
def allTasks (db : Db) : List Task := db.task.rows.insertionSort fun a b => a.id ≤ b.id

/-- `existing_task_ids`. -/
def existingTaskIds (ids : List TaskId) (db : Db) : List TaskId :=
  ids.filter fun tid => db.task.Has tid

/-- `set_task_state`. `expected` is the set of `expected_state`, if one is given. -/
def setTaskState (now : String) (tid : TaskId) (newState : String)
    (expected : Option (List TaskState)) : Db → Except PyErr Bool × Db :=
  connection fun db =>
    match db.task? tid with
    | none => (.ok false, db)
    | some row =>
      if expected.any fun set => !set.contains row.state then (.ok false, db)
      else
        match transition row.state newState with
        | .error e => (.error e, db)
        | .ok st => (.ok true, db.setStates (fun t => t.id = tid && t.state = row.state) st now)

/-- `release_task_claim`. -/
def releaseTaskClaim (now : String) (tid : TaskId) (target : String) :
    Db → Except PyErr Bool × Db :=
  setTaskState now tid target (some [.dispatching])

/-- `SELECT COUNT(*) FROM worker WHERE ended_at IS NULL`. -/
def activeWorkers (db : Db) : Nat := db.worker.count Worker.isActive

/-- `SELECT COUNT(*) FROM task WHERE state='DISPATCHING'`. -/
def dispatchingTasks (db : Db) : Nat := db.task.count fun t => t.state = .dispatching

/-- `ORDER BY updated_at, id`. -/
def queueOrder (a b : Task) : Prop :=
  a.updatedAt < b.updatedAt ∨ a.updatedAt = b.updatedAt ∧ a.id ≤ b.id

instance : DecidableRel queueOrder := fun a b =>
  inferInstanceAs (Decidable (a.updatedAt < b.updatedAt ∨ a.updatedAt = b.updatedAt ∧ a.id ≤ b.id))

/-- `queued_tasks`. -/
def queuedTasks (db : Db) : List Task :=
  (db.task.rows.filter fun t => t.state = .queued).insertionSort queueOrder

/-- The row that a claim returns for a queued row. -/
def claimedRow (now : String) (t : Task) : Task :=
  { t with state := .dispatching, updatedAt := now }

/-- The loop of `claim_queued_tasks` over the selected rows. -/
def claimRows (now : String) : List Task → Db → List Task × Db
  | [], db => ([], db)
  | row :: rows, db =>
    let hit := (db.task? row.id).any fun t => t.state = .queued
    let (claimed, db') := claimRows now rows
      (db.setStates (fun t => t.id = row.id && t.state = .queued) .dispatching now)
    (if hit then claimedRow now row :: claimed else claimed, db')

/-- `claim_queued_tasks`. -/
def claimQueuedTasks (now : String) (maxActive : Int) : Db → Except PyErr (List Task) × Db :=
  if maxActive ≤ 0 then fun db => (.ok [], db)
  else connection fun db =>
    let capacity := maxActive - activeWorkers db - dispatchingTasks db
    if capacity ≤ 0 then (.ok [], db)
    else
      let (claimed, db') := claimRows now ((queuedTasks db).take capacity.toNat) db
      (.ok claimed, db')

/-- The loop of `mark_stale_dispatching_lost` over the selected ids. -/
def markLostRows (now : String) : List TaskId → Db → Except PyErr Unit × Db
  | [], db => (.ok (), db)
  | tid :: ids, db =>
    let db₁ := db.setStates (fun t => t.id = tid && t.state = .dispatching) .lost now
    match db₁.insertEvent
        ⟨tid, "dispatch_lost", [("reason", .str "dispatch lease expired")], now⟩ with
    | .error e => (.error e, db₁)
    | .ok db₂ => markLostRows now ids db₂

/-- The ids that `mark_stale_dispatching_lost` selects. -/
def staleDispatching (cutoff : String) (db : Db) : List TaskId :=
  ((db.task.rows.filter fun t => t.state = .dispatching && t.updatedAt < cutoff).map
    Task.id).insertionSort (· ≤ ·)

/-- `mark_stale_dispatching_lost`. -/
def markStaleDispatchingLost (now cutoff : String) : Db → Except PyErr (List TaskId) × Db :=
  connection fun db =>
    let ids := staleDispatching cutoff db
    match markLostRows now ids db with
    | (.error e, db') => (.error e, db')
    | (.ok (), db') => (.ok ids, db')

/-- `activate_worker`. -/
def activateWorker (now : String) (tid : TaskId) (worker : Worker) (workspace : String) :
    Db → Except PyErr Bool × Db :=
  connection fun db =>
    match db.task? tid with
    | none => (.ok false, db)
    | some row =>
      if row.state ≠ .dispatching then (.ok false, db)
      else
        match transition row.state "RUNNING" with
        | .error e => (.error e, db)
        | .ok st =>
          match db.insertWorker worker with
          | .error e => (.error e, db)
          | .ok db₁ =>
            (.ok true, db₁.updateTasks (fun t => t.id = tid && t.state = .dispatching)
              (fun t => { t with state := st, workspacePath := some workspace, updatedAt := now })
              (fun _ => rfl) fun _ => rfl)

/-- `if worker_id: UPDATE worker SET ended_at=? WHERE id=? AND ended_at IS NULL`. -/
def endWorkerOpt (db : Db) (workerId : Option WorkerId) (now : String) : Db :=
  match workerId with
  | none => db
  | some wid => db.endWorkerRow wid now

/-- `finish_worker`: a terminal task state, the end of the worker and an optional event. -/
def finishWorker (now : String) (tid : TaskId) (workerId : Option WorkerId)
    (terminalState : String) (event : Option Event) : Db → Except PyErr Bool × Db :=
  connection fun db =>
    match db.task? tid with
    | none => (.ok false, db)
    | some row =>
      match transition row.state terminalState with
      | .error e => (.error e, db)
      | .ok st =>
        let db₁ := endWorkerOpt
          (db.setStates (fun t => t.id = tid && t.state = row.state) st now) workerId now
        match event with
        | none => (.ok true, db₁)
        | some ev =>
          match db₁.insertEvent ev with
          | .error e => (.error e, db₁)
          | .ok db₂ => (.ok true, db₂)

/-- `delete_task`. -/
def deleteTask (tid : TaskId) : Db → Except PyErr Unit × Db :=
  connection fun db => (.ok (), db.deleteTaskRows tid)

/-- `active_worker_id`: `ORDER BY started_at DESC LIMIT 1`. -/
def activeWorkerId (tid : TaskId) (db : Db) : Option WorkerId :=
  (((db.worker.rows.filter fun w => w.taskId = tid && w.isActive).insertionSort
    fun a b => b.startedAt ≤ a.startedAt).head?).map Worker.id

/-! ## Workers -/

/-- `create_worker`. -/
def createWorker (w : Worker) : Db → Except PyErr Unit × Db :=
  connection fun db =>
    match db.insertWorker w with
    | .error e => (.error e, db)
    | .ok db' => (.ok (), db')

/-- `get_worker`. -/
def getWorker (wid : WorkerId) (db : Db) : Option Worker := db.worker? wid

/-- `end_worker`. -/
def endWorker (now : String) (wid : WorkerId) : Db → Except PyErr Unit × Db :=
  connection fun db => (.ok (), db.endWorkerRow wid now)

/-- `set_worker_session_uuid`. -/
def setWorkerSessionUuid (wid : WorkerId) (uuid : String) : Db → Except PyErr Unit × Db :=
  connection fun db =>
    (.ok (), db.updateWorkers (fun w => w.id = wid) (fun w => { w with sessionUuid := some uuid })
      (fun _ => rfl) fun _ => rfl)

/-! ## Events -/

/-- The status events of a task, newest first. -/
def statusRowsDesc (tid : TaskId) (db : Db) : List EventRow :=
  (db.event.rows.filter fun e => e.taskId = tid && e.type = "status").insertionSort
    fun a b => b.id ≤ a.id

/-- `append_event`: a status event also drops the status events of its task that fall out
of the retention window. -/
def appendEvent (settings : Settings) (e : Event) : Db → Except PyErr Unit × Db :=
  connection fun db =>
    match db.insertEvent e with
    | .error err => (.error err, db)
    | .ok db₁ =>
      if e.type = "status" then
        let retention := (max 1 settings.statusEventRetention).toNat
        match (statusRowsDesc e.taskId db₁)[retention]? with
        | none => (.ok (), db₁)
        | some oldest =>
          (.ok (), db₁.deleteEvents fun r =>
            r.taskId = e.taskId && r.type = "status" && r.id ≤ oldest.id)
      else (.ok (), db₁)

/-- `status_events`: the newest `limit` status events, oldest first. -/
def statusEvents (tid : TaskId) (limit : Nat) (db : Db) : List Event :=
  ((statusRowsDesc tid db).take limit).reverse.map EventRow.toEvent

/-! ## What the transactions do -/

namespace StoreLemmas

theorem setTaskState_cases {now : String} {tid : TaskId} {newState : String}
    {expected : Option (List TaskState)} {db db' : Db} {r : Except PyErr Bool}
    (h : setTaskState now tid newState expected db = (r, db')) :
    (db' = db ∧ r ≠ .ok true) ∨
    ∃ row st, db.task? tid = some row ∧ (∀ set, expected = some set → row.state ∈ set) ∧
      transition row.state newState = .ok st ∧ r = .ok true ∧
      db' = db.setStates (fun t => t.id = tid && t.state = row.state) st now := by
  unfold setTaskState connection at h
  cases hrow : db.task? tid with
  | none =>
    simp only [hrow, Prod.mk.injEq] at h
    exact Or.inl ⟨h.2.symm, by rw [← h.1]; simp⟩
  | some row =>
    simp only [hrow] at h
    by_cases hexp : (expected.any fun set => !set.contains row.state) = true
    · simp only [hexp, ↓reduceIte, Prod.mk.injEq] at h
      exact Or.inl ⟨h.2.symm, by rw [← h.1]; simp⟩
    · simp only [hexp, Bool.false_eq_true, ↓reduceIte] at h
      cases htr : transition row.state newState with
      | error e =>
        simp only [htr, Prod.mk.injEq] at h
        exact Or.inl ⟨h.2.symm, by rw [← h.1]; simp⟩
      | ok st =>
        simp only [htr, Prod.mk.injEq] at h
        refine Or.inr ⟨row, st, rfl, ?_, htr, h.1.symm, h.2.symm⟩
        rintro set rfl
        simpa using hexp

/-- Rewriting the state of one row, seen from the row of any task. -/
theorem task?_setStates_of {db : Db} {tid : TaskId} {row : Task} (hrow : db.task? tid = some row)
    (st : TaskState) (now : String) (tid' : TaskId) :
    (db.setStates (fun t => t.id = tid && t.state = row.state) st now).task? tid' =
      if tid' = tid then some { row with state := st, updatedAt := now } else db.task? tid' := by
  rw [Db.task?_setStates]
  split
  · next h =>
    subst h
    simp [hrow, Table.key_of_get? hrow]
  · next h =>
    cases ht : db.task? tid' with
    | none => rfl
    | some t => simp [Table.key_of_get? ht, h]

/-! ### The claim loop -/

theorem mem_queuedTasks {db : Db} {t : Task} :
    t ∈ queuedTasks db ↔ db.task? t.id = some t ∧ t.state = .queued := by
  simp [queuedTasks, List.mem_insertionSort, Db.task?, Table.get?_eq_some_iff]

theorem nodup_queuedTasks (db : Db) : ((queuedTasks db).map Task.id).Nodup := by
  have hperm : ((queuedTasks db).map Task.id).Perm
      ((db.task.rows.filter fun t => t.state = .queued).map Task.id) :=
    (List.perm_insertionSort _ _).map _
  exact hperm.nodup_iff.mpr (db.task.nodup.sublist (List.filter_sublist.map _))

/-- The rows that `claim_queued_tasks` selects. -/
def claimSelection (maxActive : Int) (db : Db) : List Task :=
  if maxActive ≤ 0 then []
  else
    let capacity := maxActive - activeWorkers db - dispatchingTasks db
    if capacity ≤ 0 then [] else (queuedTasks db).take capacity.toNat

theorem claimSelection_sublist (maxActive : Int) (db : Db) :
    (claimSelection maxActive db).Sublist (queuedTasks db) := by
  unfold claimSelection
  split
  · exact List.nil_sublist _
  · simp only
    split
    · exact List.nil_sublist _
    · exact List.take_sublist _ _

theorem mem_claimSelection {maxActive : Int} {db : Db} {t : Task}
    (h : t ∈ claimSelection maxActive db) : db.task? t.id = some t ∧ t.state = .queued :=
  mem_queuedTasks.mp ((claimSelection_sublist maxActive db).subset h)

theorem nodup_claimSelection (maxActive : Int) (db : Db) :
    ((claimSelection maxActive db).map Task.id).Nodup :=
  (nodup_queuedTasks db).sublist ((claimSelection_sublist maxActive db).map _)

theorem map_id_claimedRow (now : String) (tasks : List Task) :
    (tasks.map (claimedRow now)).map Task.id = tasks.map Task.id := by
  rw [List.map_map]
  rfl

/-- The selection fits into the free capacity. -/
theorem length_claimSelection (maxActive : Int) (db : Db) :
    claimSelection maxActive db = [] ∨
      ((claimSelection maxActive db).length : Int) + activeWorkers db + dispatchingTasks db
        ≤ maxActive := by
  unfold claimSelection
  split
  · exact Or.inl rfl
  · simp only
    split
    · exact Or.inl rfl
    · refine Or.inr ?_
      have := List.length_take_le
        (maxActive - activeWorkers db - dispatchingTasks db).toNat (queuedTasks db)
      omega

theorem claimRows_spec (now : String) : ∀ {rows : List Task} {db : Db},
    (∀ t ∈ rows, db.task? t.id = some t ∧ t.state = .queued) → (rows.map Task.id).Nodup →
    (claimRows now rows db).1 = rows.map (claimedRow now) ∧
    (claimRows now rows db).2.worker = db.worker ∧
    (claimRows now rows db).2.event = db.event ∧
    ∀ tid, (claimRows now rows db).2.task? tid =
      (db.task? tid).map fun t => if tid ∈ rows.map Task.id then claimedRow now t else t
  | [], db, _, _ => by simp [claimRows]
  | row :: rows, db, hrows, hnd => by
    obtain ⟨hrow, hst⟩ := hrows row List.mem_cons_self
    rw [List.map_cons, List.nodup_cons] at hnd
    have hset : ∀ tid, (db.setStates (fun t => t.id = row.id && t.state = .queued)
        .dispatching now).task? tid =
          if tid = row.id then some (claimedRow now row) else db.task? tid := by
      intro tid
      rw [← hst]
      exact task?_setStates_of hrow _ _ tid
    have hrest : ∀ t ∈ rows, (db.setStates (fun t => t.id = row.id && t.state = .queued)
        .dispatching now).task? t.id = some t ∧ t.state = .queued := by
      intro t ht
      have hne : t.id ≠ row.id := fun he => hnd.1 (he ▸ List.mem_map_of_mem ht)
      rw [hset, if_neg hne]
      exact hrows t (List.mem_cons_of_mem _ ht)
    obtain ⟨h1, h2, h3, h4⟩ := claimRows_spec now hrest hnd.2
    have hhit : ((db.task? row.id).any fun t => t.state = .queued) = true := by
      simp [hrow, hst]
    refine ⟨?_, h2, h3, ?_⟩
    · simp only [claimRows, hhit, ↓reduceIte, List.map_cons, h1]
    · intro tid
      simp only [claimRows, h4 tid, hset tid, List.map_cons, List.mem_cons]
      by_cases htid : tid = row.id
      · subst htid
        simp [hnd.1, hrow]
      · simp [htid]

theorem claimQueuedTasks_spec (now : String) (maxActive : Int) (db : Db) :
    (claimQueuedTasks now maxActive db).1 =
      .ok ((claimSelection maxActive db).map (claimedRow now)) ∧
    (claimQueuedTasks now maxActive db).2.worker = db.worker ∧
    (claimQueuedTasks now maxActive db).2.event = db.event ∧
    ∀ tid, (claimQueuedTasks now maxActive db).2.task? tid =
      (db.task? tid).map fun t =>
        if tid ∈ (claimSelection maxActive db).map Task.id then claimedRow now t else t := by
  have hspec := claimRows_spec now
    (fun t (ht : t ∈ claimSelection maxActive db) => mem_claimSelection ht)
    (nodup_claimSelection maxActive db)
  unfold claimQueuedTasks connection
  by_cases h0 : maxActive ≤ 0
  · simp [h0, claimSelection]
  · by_cases hc : maxActive - activeWorkers db - dispatchingTasks db ≤ 0
    · simp [h0, hc, claimSelection]
    · simp only [claimSelection, h0, hc, ↓reduceIte] at hspec ⊢
      exact ⟨congrArg _ hspec.1, hspec.2⟩

/-! ### The stale-claim sweep -/

theorem mem_staleDispatching {cutoff : String} {db : Db} {tid : TaskId} :
    tid ∈ staleDispatching cutoff db ↔
      ∃ t, db.task? tid = some t ∧ t.state = .dispatching ∧ t.updatedAt < cutoff := by
  simp only [staleDispatching, List.mem_insertionSort, List.mem_map, List.mem_filter,
    Bool.and_eq_true, decide_eq_true_eq, Db.task?, Table.get?_eq_some_iff]
  constructor
  · rintro ⟨t, ⟨ht, hs, hu⟩, rfl⟩
    exact ⟨t, ⟨ht, rfl⟩, hs, hu⟩
  · rintro ⟨t, ⟨ht, rfl⟩, hs, hu⟩
    exact ⟨t, ⟨ht, hs, hu⟩, rfl⟩

/-- The row that the sweep leaves for a stale claim. -/
def lostRow (now : String) (t : Task) : Task := { t with state := .lost, updatedAt := now }

/-- The event that the sweep records for a stale claim. -/
def dispatchLostEvent (now : String) (tid : TaskId) : Event :=
  ⟨tid, "dispatch_lost", [("reason", .str "dispatch lease expired")], now⟩

theorem markLostRows_spec (now : String) : ∀ {ids : List TaskId} {db : Db},
    (∀ tid ∈ ids, db.task.Has tid) →
    ∃ db', markLostRows now ids db = (.ok (), db') ∧ db'.worker = db.worker ∧
      db'.event.rows.map EventRow.toEvent =
        db.event.rows.map EventRow.toEvent ++ ids.map (dispatchLostEvent now) ∧
      ∀ tid, db'.task? tid = (db.task? tid).map fun t =>
        if tid ∈ ids ∧ t.state = .dispatching then lostRow now t else t
  | [], db, _ => ⟨db, rfl, rfl, by simp, fun tid => by simp⟩
  | tid :: ids, db, hids => by
    have hhas : ∀ k, (db.setStates (fun t => t.id = tid && t.state = .dispatching)
        .lost now).task.Has k ↔ db.task.Has k := fun _ => Db.has_setStates
    obtain ⟨db₂, hins⟩ : ∃ db₂, (db.setStates (fun t => t.id = tid && t.state = .dispatching)
        .lost now).insertEvent (dispatchLostEvent now tid) = .ok db₂ := by
      refine ⟨_, dif_pos ((hhas tid).mpr (hids tid List.mem_cons_self))⟩
    obtain ⟨-, htask, hworker, hevent⟩ := Db.insertEvent_eq_ok hins
    have hrest : ∀ k ∈ ids, db₂.task.Has k := by
      intro k hk
      rw [htask]
      exact (hhas k).mpr (hids k (List.mem_cons_of_mem _ hk))
    obtain ⟨db', hrun, hw, he, ht⟩ := markLostRows_spec now hrest
    refine ⟨db', ?_, ?_, ?_, ?_⟩
    · unfold markLostRows
      unfold dispatchLostEvent at hins
      simp only [hins, hrun]
    · rw [hw, hworker, Db.setStates_worker]
    · simp only [he, hevent, Db.setStates_event, List.map_append, List.map_cons, List.map_nil,
        List.append_assoc, List.cons_append, List.nil_append]
    · intro k
      have hk : db₂.task? k = (db.task? k).map fun t =>
          if t.id = tid ∧ t.state = .dispatching then lostRow now t else t := by
        unfold Db.task?
        rw [htask]
        have := Db.task?_setStates db (fun t => t.id = tid && t.state = .dispatching) .lost now k
        simpa [Db.task?, lostRow] using this
      rw [ht k, hk, Option.map_map]
      cases hdb : db.task? k with
      | none => rfl
      | some t =>
        have hid := Table.key_of_get? hdb
        simp only [Option.map_some, Function.comp_apply, hid, List.mem_cons]
        by_cases h1 : k = tid <;> by_cases h2 : t.state = .dispatching <;>
          simp [h1, h2, lostRow]

theorem markStaleDispatchingLost_spec (now cutoff : String) (db : Db) :
    (markStaleDispatchingLost now cutoff db).1 = .ok (staleDispatching cutoff db) ∧
    (markStaleDispatchingLost now cutoff db).2.worker = db.worker ∧
    (markStaleDispatchingLost now cutoff db).2.event.rows.map EventRow.toEvent =
      db.event.rows.map EventRow.toEvent ++
        (staleDispatching cutoff db).map (dispatchLostEvent now) ∧
    ∀ tid, (markStaleDispatchingLost now cutoff db).2.task? tid = (db.task? tid).map fun t =>
      if tid ∈ staleDispatching cutoff db then lostRow now t else t := by
  have hhas : ∀ tid ∈ staleDispatching cutoff db, db.task.Has tid := by
    intro tid h
    obtain ⟨t, ht, -⟩ := mem_staleDispatching.mp h
    exact ⟨t, Table.get?_eq_some_iff.mp ht⟩
  obtain ⟨db', hrun, hw, he, ht⟩ := markLostRows_spec now hhas
  unfold markStaleDispatchingLost connection
  simp only [hrun]
  refine ⟨trivial, hw, he, fun tid => ?_⟩
  rw [ht tid]
  cases hdb : db.task? tid with
  | none => rfl
  | some t =>
    simp only [Option.map_some]
    by_cases hm : tid ∈ staleDispatching cutoff db
    · obtain ⟨t', ht', hst, -⟩ := mem_staleDispatching.mp hm
      rw [hdb] at ht'
      cases ht'
      simp [hm, hst]
    · simp [hm]

/-! ### Activation and retirement -/

theorem activateWorker_cases {now : String} {tid : TaskId} {worker : Worker} {workspace : String}
    {db db' : Db} {r : Except PyErr Bool}
    (h : activateWorker now tid worker workspace db = (r, db')) :
    (db' = db ∧ r ≠ .ok true) ∨
    ∃ row, ∃ hu : ¬ db.worker.Has worker.id, db.task? tid = some row ∧
      row.state = .dispatching ∧ r = .ok true ∧ db.task.Has worker.taskId ∧
      db'.worker = db.worker.insert worker hu ∧ db'.event = db.event ∧
      ∀ tid', db'.task? tid' =
        if tid' = tid then
          some { row with state := .running, workspacePath := some workspace, updatedAt := now }
        else db.task? tid' := by
  unfold activateWorker connection at h
  cases hrow : db.task? tid with
  | none =>
    simp only [hrow, Prod.mk.injEq] at h
    exact Or.inl ⟨h.2.symm, by rw [← h.1]; simp⟩
  | some row =>
    by_cases hst : row.state = .dispatching
    · have htr : transition .dispatching "RUNNING" = .ok .running := by decide
      simp only [hrow, hst, ne_eq, not_true_eq_false, ↓reduceIte] at h
      rw [htr] at h
      cases hins : db.insertWorker worker with
      | error e =>
        simp only [hins, Prod.mk.injEq] at h
        exact Or.inl ⟨h.2.symm, by rw [← h.1]; simp⟩
      | ok db₁ =>
        simp only [hins, Prod.mk.injEq] at h
        obtain ⟨hu, hf, hw, ht, he⟩ := Db.insertWorker_eq_ok hins
        refine Or.inr ⟨row, hu, rfl, hst, h.1.symm, hf, ?_, ?_, ?_⟩
        · rw [← h.2]; exact hw
        · rw [← h.2]; exact he
        · intro tid'
          rw [← h.2]
          simp only [Db.updateTasks, Db.task?, Table.get?_updateWhere, ht]
          split
          · next heq =>
            subst heq
            have hid : row.id = tid' := Table.key_of_get? hrow
            have hrow' : db.task.get? tid' = some row := hrow
            simp [hrow', hid, hst]
          · next hne =>
            cases hdb : db.task.get? tid' with
            | none => rfl
            | some t => simp [Table.key_of_get? hdb, hne]
    · simp only [hrow, ne_eq, hst, not_false_eq_true, ↓reduceIte, Prod.mk.injEq] at h
      exact Or.inl ⟨h.2.symm, by rw [← h.1]; simp⟩

@[simp] theorem endWorkerOpt_task (db : Db) (w : Option WorkerId) (now : String) :
    (endWorkerOpt db w now).task = db.task := by
  cases w <;> rfl

@[simp] theorem endWorkerOpt_event (db : Db) (w : Option WorkerId) (now : String) :
    (endWorkerOpt db w now).event = db.event := by
  cases w <;> rfl

theorem finishWorker_cases {now : String} {tid : TaskId} {workerId : Option WorkerId}
    {terminalState : String} {event : Option Event} {db db' : Db} {r : Except PyErr Bool}
    (h : finishWorker now tid workerId terminalState event db = (r, db')) :
    (db' = db ∧ ((r = .ok false ∧ db.task? tid = none) ∨ ∃ e, r = .error e)) ∨
    ∃ row st, db.task? tid = some row ∧ transition row.state terminalState = .ok st ∧
      r = .ok true ∧ db'.worker = (endWorkerOpt db workerId now).worker ∧
      db'.event.rows.map EventRow.toEvent =
        db.event.rows.map EventRow.toEvent ++ event.toList ∧
      ∀ tid', db'.task? tid' =
        if tid' = tid then some { row with state := st, updatedAt := now } else db.task? tid' := by
  unfold finishWorker connection at h
  cases hrow : db.task? tid with
  | none =>
    simp only [hrow, Prod.mk.injEq] at h
    exact Or.inl ⟨h.2.symm, Or.inl ⟨h.1.symm, rfl⟩⟩
  | some row =>
    cases htr : transition row.state terminalState with
    | error e =>
      simp only [hrow, htr, Prod.mk.injEq] at h
      exact Or.inl ⟨h.2.symm, Or.inr ⟨e, h.1.symm⟩⟩
    | ok st =>
      simp only [hrow, htr] at h
      have htask : ∀ tid', (endWorkerOpt (db.setStates
          (fun t => t.id = tid && t.state = row.state) st now) workerId now).task? tid' =
          if tid' = tid then some { row with state := st, updatedAt := now }
          else db.task? tid' := by
        intro tid'
        unfold Db.task?
        rw [endWorkerOpt_task]
        exact task?_setStates_of hrow _ _ tid'
      have hworker : (endWorkerOpt (db.setStates
          (fun t => t.id = tid && t.state = row.state) st now) workerId now).worker =
          (endWorkerOpt db workerId now).worker := by
        cases workerId <;> rfl
      cases event with
      | none =>
        simp only [Prod.mk.injEq] at h
        refine Or.inr ⟨row, st, rfl, htr, h.1.symm, ?_, ?_, ?_⟩
        · rw [← h.2, hworker]
        · rw [← h.2]; simp
        · rw [← h.2]; exact htask
      | some ev =>
        cases hins : (endWorkerOpt (db.setStates
          (fun t => t.id = tid && t.state = row.state) st now) workerId now).insertEvent ev with
        | error e =>
          simp only [hins, Prod.mk.injEq] at h
          exact Or.inl ⟨h.2.symm, Or.inr ⟨e, h.1.symm⟩⟩
        | ok db₃ =>
          simp only [hins, Prod.mk.injEq] at h
          obtain ⟨-, ht, hw, he⟩ := Db.insertEvent_eq_ok hins
          refine Or.inr ⟨row, st, rfl, htr, h.1.symm, ?_, ?_, ?_⟩
          · rw [← h.2, hw, hworker]
          · rw [← h.2, he]; simp
          · intro tid'
            rw [← h.2]
            unfold Db.task?
            rw [ht]
            exact htask tid'

/-! ### The active worker -/

theorem activeWorkerId_mem {tid : TaskId} {db : Db} {wid : WorkerId}
    (h : activeWorkerId tid db = some wid) :
    ∃ w ∈ db.worker.rows, w.id = wid ∧ w.taskId = tid ∧ w.isActive = true := by
  unfold activeWorkerId at h
  obtain ⟨w, hw, hid⟩ := Option.map_eq_some_iff.mp h
  have hmem := (List.mem_insertionSort _).mp (List.mem_of_head? hw)
  rw [List.mem_filter, Bool.and_eq_true, decide_eq_true_eq] at hmem
  exact ⟨w, hmem.1, hid, hmem.2.1, hmem.2.2⟩

theorem activeWorkerId_isSome {tid : TaskId} {db : Db} {w : Worker} (hw : w ∈ db.worker.rows)
    (htid : w.taskId = tid) (hactive : w.isActive = true) :
    (activeWorkerId tid db).isSome = true := by
  have hmem := (List.mem_insertionSort (fun a b : Worker => b.startedAt ≤ a.startedAt)
    (l := db.worker.rows.filter fun w => w.taskId = tid && w.isActive) (x := w)).mpr
    (List.mem_filter.mpr ⟨hw, by rw [htid, hactive]; simp⟩)
  unfold activeWorkerId
  rw [Option.isSome_map, List.isSome_head?]
  exact List.ne_nil_of_mem hmem

/-! ### Creation, events and the session id -/

theorem createTasksBody_ok : ∀ {ts : List Task} {db db' : Db},
    createTasksBody ts db = (.ok (), db') →
    db'.worker = db.worker ∧ db'.event = db.event ∧
      (∀ tid, db'.task? tid = (db.task? tid).or (ts.find? fun t => t.id = tid)) ∧
      ∀ t ∈ ts, db.task? t.id = none
  | [], db, db', h => by
    cases h
    simp
  | t :: ts, db, db', h => by
    unfold createTasksBody at h
    cases hins : db.insertTask t with
    | error e => simp only [hins, Prod.mk.injEq, reduceCtorEq, false_and] at h
    | ok db₁ =>
      simp only [hins] at h
      obtain ⟨hnone, ht, hw, he⟩ := Db.insertTask_eq_ok hins
      obtain ⟨hw', he', ht', hnew⟩ := createTasksBody_ok h
      refine ⟨hw'.trans hw, he'.trans he, ?_, ?_⟩
      · intro tid
        rw [ht' tid, ht tid, List.find?_cons]
        by_cases hid : t.id = tid
        · subst hid
          simp [hnone]
        · simp [hid]
      · intro t' hm
        rcases List.mem_cons.mp hm with rfl | hm
        · exact hnone
        · have h1 := hnew t' hm
          rw [ht] at h1
          split at h1
          · cases h1
          · exact h1

theorem createTasks_cases {ts : List Task} {db db' : Db} {r : Except PyErr Unit}
    (h : createTasks ts db = (r, db')) :
    (db' = db ∧ r ≠ .ok ()) ∨
    (r = .ok () ∧ db'.worker = db.worker ∧ db'.event = db.event ∧
      (∀ tid, db'.task? tid = (db.task? tid).or (ts.find? fun t => t.id = tid)) ∧
      ∀ t ∈ ts, db.task? t.id = none) := by
  unfold createTasks connection at h
  cases hb : createTasksBody ts db with
  | mk r₁ db₁ =>
    cases r₁ with
    | error e =>
      simp only [hb, Prod.mk.injEq] at h
      exact Or.inl ⟨h.2.symm, by rw [← h.1]; simp⟩
    | ok u =>
      simp only [hb, Prod.mk.injEq] at h
      rw [← h.2, ← h.1]
      exact Or.inr ⟨rfl, createTasksBody_ok hb⟩

/-- Appending an event touches no task and no worker, raises exactly when the task does not
exist, and drops nothing but status events of its own task. -/
theorem appendEvent_cases {settings : Settings} {e : Event} {db db' : Db}
    {r : Except PyErr Unit} (h : appendEvent settings e db = (r, db')) :
    (db' = db ∧ ¬ db.task.Has e.taskId ∧ ∃ err, r = .error err) ∨
    (r = .ok () ∧ db.task.Has e.taskId ∧ db'.task = db.task ∧ db'.worker = db.worker ∧
      ∃ dropped : EventRow → Bool,
        (∀ x, dropped x = true → x.type = "status" ∧ x.taskId = e.taskId ∧ e.type = "status") ∧
        db'.event.rows = (db.event.rows ++ [EventRow.mk e (db.eventSeq + 1)]).filter
          fun x => !dropped x) := by
  unfold appendEvent connection at h
  cases hins : db.insertEvent e with
  | error err =>
    simp only [hins, Prod.mk.injEq] at h
    refine Or.inl ⟨h.2.symm, fun hh => ?_, err, h.1.symm⟩
    unfold Db.insertEvent at hins
    rw [dif_pos hh] at hins
    cases hins
  | ok db₁ =>
    obtain ⟨hhas, ht, hw, he⟩ := Db.insertEvent_eq_ok hins
    simp only [hins] at h
    by_cases hst : e.type = "status"
    · simp only [hst, ↓reduceIte] at h
      split at h
      · next heq =>
        split at heq
        · cases heq
          cases h
          exact Or.inr ⟨rfl, hhas, ht, hw, fun _ => false, by simp, by simp [he]⟩
        · next oldest _ =>
          cases heq
          cases h
          refine Or.inr ⟨rfl, hhas, ht, hw, _, ?_, congrArg (List.filter _) he⟩
          intro x hx
          simp only [Bool.and_eq_true, decide_eq_true_eq] at hx
          exact ⟨hx.1.2, hx.1.1, hst⟩
      · next heq => split at heq <;> cases heq
    · simp only [hst, ↓reduceIte, Prod.mk.injEq] at h
      rw [← h.1, ← h.2]
      exact Or.inr ⟨rfl, hhas, ht, hw, fun _ => false, by simp, by simp [he]⟩

end StoreLemmas

end Store

end Flotilla
