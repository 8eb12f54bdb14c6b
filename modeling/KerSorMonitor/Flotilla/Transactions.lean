import KerSorMonitor.Flotilla.Store

/-!
# Transactions and their runs

The methods of `Store` as one type, indexed by what they return, so that a sequence of
committed transactions (of any number of threads and processes) is a list and a property
of every transaction is one case analysis.

Results:
1. `exec_rollsBack`: a transaction that raises changes nothing.
2. `exec_row`: what a transaction does to a task row.
3. `exec_rowStep`, `exec_created`, `exec_deleted`: its cases.
4. `exec_writes`: which states a transaction writes.
5. `exec_worker`: what a transaction does to a worker row.
6. `run_invariant`: an invariant of the transactions holds after every run.
-/

namespace Flotilla

open Keyed Store

/-- The clock readings of one call: `_now()`, and the cutoff of the stale-claim sweep. -/
structure Clock where
  now : String
  cutoff : String

/-- A call of a method of `Store`. -/
inductive Transaction : Type → Type
  | createProject (p : Project) : Transaction Bool
  | getProject (pid : String) : Transaction (Option Project)
  | createHost (h : Host) : Transaction Unit
  | getHost (hid : String) : Transaction (Option Host)
  | createTasks (tasks : List Task) : Transaction Unit
  | existingTaskIds (ids : List TaskId) : Transaction (List TaskId)
  | getTask (tid : TaskId) : Transaction (Option Task)
  | allTasks : Transaction (List Task)
  | setTaskState (tid : TaskId) (newState : String) (expected : Option (List TaskState)) :
      Transaction Bool
  | claimQueuedTasks (maxActive : Int) : Transaction (List Task)
  | releaseTaskClaim (tid : TaskId) (target : String) : Transaction Bool
  | markStaleDispatchingLost : Transaction (List TaskId)
  | activateWorker (tid : TaskId) (worker : Worker) (workspace : String) : Transaction Bool
  | finishWorker (tid : TaskId) (workerId : Option WorkerId) (terminalState : String)
      (event : Option Event) : Transaction Bool
  | deleteTask (tid : TaskId) : Transaction Unit
  | activeWorkerId (tid : TaskId) : Transaction (Option WorkerId)
  | createWorker (w : Worker) : Transaction Unit
  | getWorker (wid : WorkerId) : Transaction (Option Worker)
  | endWorker (wid : WorkerId) : Transaction Unit
  | setWorkerSessionUuid (wid : WorkerId) (uuid : String) : Transaction Unit
  | appendEvent (e : Event) : Transaction Unit
  | statusEvents (tid : TaskId) (limit : Nat) : Transaction (List Event)

namespace Transaction

/-- A method that only reads. -/
def reading {α : Type} (f : Db → α) (db : Db) : Except PyErr α × Db := (.ok (f db), db)

/-- What a call does. -/
def exec (settings : Settings) (clock : Clock) :
    {α : Type} → Transaction α → Db → Except PyErr α × Db
  | _, .createProject p => Store.createProject p
  | _, .getProject pid => reading (Store.getProject pid)
  | _, .createHost h => Store.createHost h
  | _, .getHost hid => reading (Store.getHost hid)
  | _, .createTasks tasks => Store.createTasks tasks
  | _, .existingTaskIds ids => reading (Store.existingTaskIds ids)
  | _, .getTask tid => reading (Store.getTask tid)
  | _, .allTasks => reading Store.allTasks
  | _, .setTaskState tid newState expected =>
    Store.setTaskState clock.now tid newState expected
  | _, .claimQueuedTasks maxActive => Store.claimQueuedTasks clock.now maxActive
  | _, .releaseTaskClaim tid target => Store.releaseTaskClaim clock.now tid target
  | _, .markStaleDispatchingLost => Store.markStaleDispatchingLost clock.now clock.cutoff
  | _, .activateWorker tid worker workspace =>
    Store.activateWorker clock.now tid worker workspace
  | _, .finishWorker tid workerId terminalState event =>
    Store.finishWorker clock.now tid workerId terminalState event
  | _, .deleteTask tid => Store.deleteTask tid
  | _, .activeWorkerId tid => reading (Store.activeWorkerId tid)
  | _, .createWorker w => Store.createWorker w
  | _, .getWorker wid => reading (Store.getWorker wid)
  | _, .endWorker wid => Store.endWorker clock.now wid
  | _, .setWorkerSessionUuid wid uuid => Store.setWorkerSessionUuid wid uuid
  | _, .appendEvent e => Store.appendEvent settings e
  | _, .statusEvents tid limit => reading (Store.statusEvents tid limit)

/-- The call deletes task `tid`. -/
def Deletes (tid : TaskId) : {α : Type} → Transaction α → Prop
  | _, .deleteTask tid' => tid' = tid
  | _, _ => False

/-- The call claims queued tasks. -/
def IsClaim : {α : Type} → Transaction α → Prop
  | _, .claimQueuedTasks _ => True
  | _, _ => False

/-- The call submits the task row `t`. -/
def Creates (t : Task) : {α : Type} → Transaction α → Prop
  | _, .createTasks ts => t ∈ ts
  | _, _ => False

/-- The call may insert the worker row `w`. -/
def Inserts (w : Worker) : {α : Type} → Transaction α → Prop
  | _, .activateWorker _ w' _ => w' = w
  | _, .createWorker w' => w' = w
  | _, _ => False

/-- The call writes the state `st` into the row of task `tid`, when it writes that row. -/
def Writes (tid : TaskId) (st : TaskState) : {α : Type} → Transaction α → Prop
  | _, .createTasks ts => ∃ t ∈ ts, t.id = tid ∧ t.state = st
  | _, .setTaskState tid' newState _ => tid' = tid ∧ newState = st.name
  | _, .claimQueuedTasks _ => st = .dispatching
  | _, .releaseTaskClaim tid' target => tid' = tid ∧ target = st.name
  | _, .markStaleDispatchingLost => st = .lost
  | _, .activateWorker tid' _ _ => tid' = tid ∧ st = .running
  | _, .finishWorker tid' _ terminalState _ => tid' = tid ∧ terminalState = st.name
  | _, _ => False

end Transaction

/-- What a transaction may do to a task row that it keeps: move the state along the table,
and rewrite the workspace and the time stamp. -/
structure RowStep (t t' : Task) : Prop where
  state : t.state = t'.state ∨ (t.state, t'.state) ∈ allowed
  fixed : t' = { t with state := t'.state, workspacePath := t'.workspacePath,
                        updatedAt := t'.updatedAt }

/-- What a transaction may do to a worker row that it keeps: record the session and, once,
the end. -/
structure WorkerStep (w w' : Worker) : Prop where
  ended : w.isActive = false → w'.endedAt = w.endedAt
  fixed : w' = { w with sessionUuid := w'.sessionUuid, endedAt := w'.endedAt }

/-! ## One transaction -/

namespace TransactionLemmas

open StoreLemmas Transaction TaskState

theorem RowStep.refl (t : Task) : RowStep t t := ⟨Or.inl rfl, rfl⟩

variable {settings : Settings} {clock : Clock} {α : Type} {db db' : Db}

/-- Raising changes nothing. -/
def RollsBack (f : Db → Except PyErr α × Db) : Prop :=
  ∀ db db' e, f db = (.error e, db') → db' = db

theorem rollsBack_connection (body : Db → Except PyErr α × Db) : RollsBack (connection body) :=
  fun _ _ _ h => connection_error h

theorem rollsBack_reading (f : Db → α) : RollsBack (reading f) := by
  intro db db' e h
  cases h

/-- A transaction that raises leaves every table as it was. -/
theorem exec_rollsBack (tx : Transaction α) : RollsBack (tx.exec settings clock) := by
  cases tx with
  | claimQueuedTasks maxActive =>
    intro db db' e h
    have hok := (claimQueuedTasks_spec clock.now maxActive db).1
    rw [show claimQueuedTasks clock.now maxActive db = (.error e, db') from h] at hok
    cases hok
  | getProject | getHost | existingTaskIds | getTask | allTasks | activeWorkerId | getWorker
  | statusEvents => exact rollsBack_reading _
  | createHost | createTasks | setTaskState | releaseTaskClaim | markStaleDispatchingLost
  | activateWorker | finishWorker | createWorker | appendEvent => exact rollsBack_connection _
  | createProject | deleteTask | endWorker | setWorkerSessionUuid =>
    intro db db' e h
    cases h

/-- The calls that leave the task table alone. -/
def KeepsTasks : {α : Type} → Transaction α → Prop
  | _, .createTasks _ => False
  | _, .setTaskState _ _ _ => False
  | _, .claimQueuedTasks _ => False
  | _, .releaseTaskClaim _ _ => False
  | _, .markStaleDispatchingLost => False
  | _, .activateWorker _ _ _ => False
  | _, .finishWorker _ _ _ _ => False
  | _, .deleteTask _ => False
  | _, _ => True

theorem task_eq_of_keepsTasks {tx : Transaction α} (hk : KeepsTasks tx)
    {r : Except PyErr α} (h : tx.exec settings clock db = (r, db')) : db'.task = db.task := by
  cases tx with
  | getProject | getHost | existingTaskIds | getTask | allTasks | activeWorkerId | getWorker
  | statusEvents | endWorker | setWorkerSessionUuid =>
    cases h
    rfl
  | createProject p =>
    cases h
    exact Db.insertProject_task db p
  | createHost host =>
    simp only [exec, Store.createHost, connection] at h
    cases hins : db.insertHost host with
    | error e => simp only [hins, Prod.mk.injEq] at h; rw [← h.2]
    | ok db₁ =>
      simp only [hins, Prod.mk.injEq] at h
      rw [← h.2]
      exact (Db.insertHost_eq_ok hins).1
  | createWorker w =>
    simp only [exec, Store.createWorker, connection] at h
    cases hins : db.insertWorker w with
    | error e => simp only [hins, Prod.mk.injEq] at h; rw [← h.2]
    | ok db₁ =>
      simp only [hins, Prod.mk.injEq] at h
      rw [← h.2]
      obtain ⟨-, -, -, ht, -⟩ := Db.insertWorker_eq_ok hins
      exact ht
  | appendEvent e =>
    rcases appendEvent_cases h with ⟨rfl, -⟩ | ⟨-, -, ht, -⟩
    · rfl
    · exact ht
  | createTasks | setTaskState | claimQueuedTasks | releaseTaskClaim | markStaleDispatchingLost
  | activateWorker | finishWorker | deleteTask => exact hk.elim

/-- A claim, a sweep and a release move the state along the table although they do not
call `transition`: their `WHERE` clauses fix the old state. -/
theorem rowStep_setState {t : Task} {st : TaskState} {now : String}
    (h : t.state = st ∨ (t.state, st) ∈ allowed) :
    RowStep t { t with state := st, updatedAt := now } := ⟨h, rfl⟩

/-- What a transaction does to the row of one task. -/
inductive RowChange (tx : Transaction α) (tid : TaskId) : Option Task → Option Task → Prop
  | keep (o : Option Task) : RowChange tx tid o o
  | step {t t' : Task} : RowStep t t' → RowChange tx tid (some t) (some t')
  | create {t' : Task} : tx.Creates t' → RowChange tx tid none (some t')
  | delete {t : Task} : tx.Deletes tid → RowChange tx tid (some t) none

theorem rowChange_setTaskState {tx : Transaction α} {now : String} {tid : TaskId}
    {newState : String} {expected : Option (List TaskState)} {r : Except PyErr Bool}
    (h : Store.setTaskState now tid newState expected db = (r, db')) (tid' : TaskId) :
    RowChange tx tid' (db.task? tid') (db'.task? tid') := by
  rcases setTaskState_cases h with ⟨rfl, -⟩ | ⟨row, st, hrow, -, htr, -, rfl⟩
  · exact .keep _
  · rw [task?_setStates_of hrow]
    split
    · next heq =>
      rw [heq, hrow]
      exact .step (rowStep_setState (transition_eq_ok htr).2)
    · exact .keep _

/-- Every transaction moves the rows that it keeps along the table; only a submitted batch
makes rows, and only a deletion drops one. -/
theorem exec_row {tx : Transaction α} {r : Except PyErr α}
    (h : tx.exec settings clock db = (r, db')) (tid : TaskId) :
    RowChange tx tid (db.task? tid) (db'.task? tid) := by
  cases tx with
  | createTasks ts =>
    rcases createTasks_cases h with ⟨rfl, -⟩ | ⟨-, -, -, htask, -⟩
    · exact .keep _
    · rw [htask]
      cases hrow : db.task? tid with
      | some t => exact .keep _
      | none =>
        rw [Option.none_or]
        cases hf : ts.find? fun t => t.id = tid with
        | none => exact .keep _
        | some t => exact .create (List.mem_of_find?_eq_some hf)
  | setTaskState tid' newState expected => exact rowChange_setTaskState h tid
  | releaseTaskClaim tid' target => exact rowChange_setTaskState h tid
  | claimQueuedTasks maxActive =>
    obtain ⟨-, -, -, htask⟩ := claimQueuedTasks_spec clock.now maxActive db
    rw [show (Store.claimQueuedTasks clock.now maxActive db).2 = db' from congrArg Prod.snd h]
      at htask
    rw [htask]
    cases hrow : db.task? tid with
    | none => exact .keep _
    | some t =>
      refine .step ?_
      split
      · next hmem =>
        obtain ⟨t₀, ht₀, rfl⟩ := List.mem_map.mp hmem
        obtain ⟨hrow₀, hst⟩ := mem_claimSelection ht₀
        cases hrow.symm.trans hrow₀
        exact rowStep_setState (Or.inr (by rw [hst]; decide))
      · exact RowStep.refl t
  | markStaleDispatchingLost =>
    obtain ⟨-, -, -, htask⟩ := markStaleDispatchingLost_spec clock.now clock.cutoff db
    rw [show (Store.markStaleDispatchingLost clock.now clock.cutoff db).2 = db' from
      congrArg Prod.snd h] at htask
    rw [htask]
    cases hrow : db.task? tid with
    | none => exact .keep _
    | some t =>
      refine .step ?_
      split
      · next hmem =>
        obtain ⟨t₀, hrow₀, hst, -⟩ := mem_staleDispatching.mp hmem
        cases hrow.symm.trans hrow₀
        exact rowStep_setState (Or.inr (by rw [hst]; decide))
      · exact RowStep.refl t
  | activateWorker tid' worker workspace =>
    rcases activateWorker_cases h with ⟨rfl, -⟩ | ⟨row, -, hrow, hst, -, -, -, -, htask⟩
    · exact .keep _
    · rw [htask]
      split
      · next heq =>
        rw [heq, hrow]
        have hmem : (TaskState.dispatching, TaskState.running) ∈ allowed := by decide
        exact .step ⟨Or.inr (by rw [hst]; exact hmem), rfl⟩
      · exact .keep _
  | finishWorker tid' workerId terminalState event =>
    rcases finishWorker_cases h with ⟨rfl, -⟩ | ⟨row, st, hrow, htr, -, -, -, htask⟩
    · exact .keep _
    · rw [htask]
      split
      · next heq =>
        rw [heq, hrow]
        exact .step (rowStep_setState (transition_eq_ok htr).2)
      · exact .keep _
  | deleteTask tid' =>
    cases h
    rw [Db.task?_deleteTaskRows]
    split
    · next heq =>
      cases hrow : db.task? tid with
      | none => exact .keep _
      | some t => exact .delete heq.symm
    · exact .keep _
  | _ =>
    unfold Db.task?
    rw [task_eq_of_keepsTasks (by exact trivial) h]
    exact .keep _

theorem exec_rowStep {tx : Transaction α} {r : Except PyErr α}
    (h : tx.exec settings clock db = (r, db')) {tid : TaskId} {t t' : Task}
    (ht : db.task? tid = some t) (ht' : db'.task? tid = some t') : RowStep t t' := by
  have hrow := exec_row h tid
  rw [ht, ht'] at hrow
  cases hrow with
  | keep => exact RowStep.refl t
  | step hs => exact hs

theorem exec_created {tx : Transaction α} {r : Except PyErr α}
    (h : tx.exec settings clock db = (r, db')) {tid : TaskId} {t' : Task}
    (ht : db.task? tid = none) (ht' : db'.task? tid = some t') : tx.Creates t' := by
  have hrow := exec_row h tid
  rw [ht, ht'] at hrow
  cases hrow with
  | create hc => exact hc

theorem exec_deleted {tx : Transaction α} {r : Except PyErr α}
    (h : tx.exec settings clock db = (r, db')) {tid : TaskId} {t : Task}
    (ht : db.task? tid = some t) (ht' : db'.task? tid = none) : tx.Deletes tid := by
  have hrow := exec_row h tid
  rw [ht, ht'] at hrow
  cases hrow with
  | delete hd => exact hd

theorem writes_setTaskState {now : String} {tid : TaskId} {newState : String}
    {expected : Option (List TaskState)} {r : Except PyErr Bool}
    (h : Store.setTaskState now tid newState expected db = (r, db')) {tid' : TaskId}
    {st : TaskState} (hst : db'.state? tid' = some st) :
    db.state? tid' = some st ∨ (tid = tid' ∧ newState = st.name) := by
  rcases setTaskState_cases h with ⟨rfl, -⟩ | ⟨row, st', hrow, -, htr, -, rfl⟩
  · exact Or.inl hst
  · unfold Db.state? at hst ⊢
    rw [task?_setStates_of hrow] at hst
    split at hst
    · next heq =>
      cases hst
      exact Or.inr ⟨heq.symm, (name_of_ofName? (transition_eq_ok htr).1).symm⟩
    · exact Or.inl hst

/-- A row is in a state because it was before, or because the transaction wrote that state. -/
theorem exec_writes {tx : Transaction α} {r : Except PyErr α}
    (h : tx.exec settings clock db = (r, db')) {tid : TaskId} {st : TaskState}
    (hst : db'.state? tid = some st) : db.state? tid = some st ∨ tx.Writes tid st := by
  cases tx with
  | createTasks ts =>
    rcases createTasks_cases h with ⟨rfl, -⟩ | ⟨-, -, -, htask, -⟩
    · exact Or.inl hst
    · unfold Db.state? at hst ⊢
      rw [htask] at hst
      cases hrow : db.task? tid with
      | some t =>
        rw [hrow] at hst
        exact Or.inl hst
      | none =>
        rw [hrow, Option.none_or] at hst
        obtain ⟨t, ht, hst⟩ := Option.map_eq_some_iff.mp hst
        exact Or.inr ⟨t, List.mem_of_find?_eq_some ht, by simpa using List.find?_some ht, hst⟩
  | setTaskState tid' newState expected => exact writes_setTaskState h hst
  | releaseTaskClaim tid' target => exact writes_setTaskState h hst
  | claimQueuedTasks maxActive =>
    obtain ⟨-, -, -, htask⟩ := claimQueuedTasks_spec clock.now maxActive db
    rw [show (Store.claimQueuedTasks clock.now maxActive db).2 = db' from congrArg Prod.snd h]
      at htask
    unfold Db.state? at hst ⊢
    rw [htask, Option.map_map] at hst
    obtain ⟨t, ht, hst⟩ := Option.map_eq_some_iff.mp hst
    rw [Function.comp_apply] at hst
    split at hst
    · exact Or.inr hst.symm
    · exact Or.inl (by rw [ht, ← hst]; rfl)
  | markStaleDispatchingLost =>
    obtain ⟨-, -, -, htask⟩ := markStaleDispatchingLost_spec clock.now clock.cutoff db
    rw [show (Store.markStaleDispatchingLost clock.now clock.cutoff db).2 = db' from
      congrArg Prod.snd h] at htask
    unfold Db.state? at hst ⊢
    rw [htask, Option.map_map] at hst
    obtain ⟨t, ht, hst⟩ := Option.map_eq_some_iff.mp hst
    rw [Function.comp_apply] at hst
    split at hst
    · exact Or.inr hst.symm
    · exact Or.inl (by rw [ht, ← hst]; rfl)
  | activateWorker tid' worker workspace =>
    rcases activateWorker_cases h with ⟨rfl, -⟩ | ⟨row, -, -, -, -, -, -, -, htask⟩
    · exact Or.inl hst
    · unfold Db.state? at hst ⊢
      rw [htask] at hst
      split at hst
      · next heq =>
        cases hst
        exact Or.inr ⟨heq.symm, rfl⟩
      · exact Or.inl hst
  | finishWorker tid' workerId terminalState event =>
    rcases finishWorker_cases h with ⟨rfl, -⟩ | ⟨row, st', -, htr, -, -, -, htask⟩
    · exact Or.inl hst
    · unfold Db.state? at hst ⊢
      rw [htask] at hst
      split at hst
      · next heq =>
        cases hst
        exact Or.inr ⟨heq.symm, (name_of_ofName? (transition_eq_ok htr).1).symm⟩
      · exact Or.inl hst
  | deleteTask tid' =>
    cases h
    unfold Db.state? at hst ⊢
    rw [Db.task?_deleteTaskRows] at hst
    split at hst
    · cases hst
    · exact Or.inl hst
  | _ =>
    refine Or.inl ?_
    unfold Db.state? Db.task? at hst ⊢
    rwa [task_eq_of_keepsTasks (by exact trivial) h] at hst

/-- The calls that leave the worker table alone. -/
def KeepsWorkers : {α : Type} → Transaction α → Prop
  | _, .activateWorker _ _ _ => False
  | _, .finishWorker _ _ _ _ => False
  | _, .deleteTask _ => False
  | _, .createWorker _ => False
  | _, .endWorker _ => False
  | _, .setWorkerSessionUuid _ _ => False
  | _, _ => True

theorem worker_eq_of_keepsWorkers {tx : Transaction α} (hk : KeepsWorkers tx)
    {r : Except PyErr α} (h : tx.exec settings clock db = (r, db')) : db'.worker = db.worker := by
  cases tx with
  | getProject | getHost | existingTaskIds | getTask | allTasks | activeWorkerId | getWorker
  | statusEvents =>
    cases h
    rfl
  | createProject p =>
    cases h
    exact Db.insertProject_worker db p
  | createHost host =>
    simp only [exec, Store.createHost, connection] at h
    cases hins : db.insertHost host with
    | error e => simp only [hins, Prod.mk.injEq] at h; rw [← h.2]
    | ok db₁ =>
      simp only [hins, Prod.mk.injEq] at h
      rw [← h.2]
      exact (Db.insertHost_eq_ok hins).2.1
  | createTasks ts =>
    rcases createTasks_cases h with ⟨rfl, -⟩ | ⟨-, hw, -⟩
    · rfl
    · exact hw
  | setTaskState | releaseTaskClaim =>
    rcases setTaskState_cases h with ⟨rfl, -⟩ | ⟨row, st, -, -, -, -, rfl⟩
    · rfl
    · exact Db.setStates_worker _ _ _ _
  | claimQueuedTasks maxActive =>
    rw [← show (Store.claimQueuedTasks clock.now maxActive db).2 = db' from congrArg Prod.snd h]
    exact (claimQueuedTasks_spec clock.now maxActive db).2.1
  | markStaleDispatchingLost =>
    rw [← show (Store.markStaleDispatchingLost clock.now clock.cutoff db).2 = db' from
      congrArg Prod.snd h]
    exact (markStaleDispatchingLost_spec clock.now clock.cutoff db).2.1
  | appendEvent e =>
    rcases appendEvent_cases h with ⟨rfl, -⟩ | ⟨-, -, -, hw, -⟩
    · rfl
    · exact hw
  | activateWorker | finishWorker | deleteTask | createWorker | endWorker
  | setWorkerSessionUuid => exact hk.elim

theorem WorkerStep.refl (w : Worker) : WorkerStep w w := ⟨fun _ => rfl, rfl⟩

/-- What a transaction does to the row of one worker. -/
inductive WorkerChange (tx : Transaction α) : Option Worker → Option Worker → Prop
  | keep (o : Option Worker) : WorkerChange tx o o
  | step {w w' : Worker} : WorkerStep w w' → WorkerChange tx (some w) (some w')
  | insert {w' : Worker} : tx.Inserts w' → WorkerChange tx none (some w')
  | delete {w : Worker} : tx.Deletes w.taskId → WorkerChange tx (some w) none

theorem workerChange_endWorkerRow (tx : Transaction α) (db : Db) (wid : WorkerId) (now : String)
    (wid' : WorkerId) :
    WorkerChange tx (db.worker? wid') ((db.endWorkerRow wid now).worker? wid') := by
  rw [Db.worker?_endWorkerRow]
  cases db.worker? wid' with
  | none => exact .keep _
  | some w =>
    refine .step ?_
    dsimp only
    split
    · next h =>
      refine ⟨fun ha => ?_, rfl⟩
      simp [ha] at h
    · exact WorkerStep.refl w

theorem workerChange_insert {tx : Transaction α} {worker : Worker} (hi : tx.Inserts worker)
    (hu : ¬ db.worker.Has worker.id) (hw : db'.worker = db.worker.insert worker hu)
    (wid : WorkerId) : WorkerChange tx (db.worker? wid) (db'.worker? wid) := by
  unfold Db.worker?
  rw [hw, Table.get?_insert]
  split
  · next heq =>
    subst heq
    rw [Table.get?_eq_none_iff.mpr hu]
    exact .insert hi
  · exact .keep _

/-- Every transaction keeps what identifies a worker and never reopens one; only an activation
or `create_worker` makes rows, and only a deletion of the task drops one. -/
theorem exec_worker {tx : Transaction α} {r : Except PyErr α}
    (h : tx.exec settings clock db = (r, db')) (wid : WorkerId) :
    WorkerChange tx (db.worker? wid) (db'.worker? wid) := by
  cases tx with
  | activateWorker tid worker workspace =>
    rcases activateWorker_cases h with ⟨rfl, -⟩ | ⟨row, hu, -, -, -, -, hw, -, -⟩
    · exact .keep _
    · exact workerChange_insert (by exact rfl) hu hw wid
  | createWorker worker =>
    simp only [exec, Store.createWorker, connection] at h
    cases hins : db.insertWorker worker with
    | error e =>
      simp only [hins, Prod.mk.injEq] at h
      rw [h.2]
      exact .keep _
    | ok db₁ =>
      simp only [hins, Prod.mk.injEq] at h
      obtain ⟨hu, -, hw, -⟩ := Db.insertWorker_eq_ok hins
      rw [← h.2]
      exact workerChange_insert (by exact rfl) hu hw wid
  | finishWorker tid workerId terminalState event =>
    rcases finishWorker_cases h with ⟨rfl, -⟩ | ⟨row, st, -, -, -, hw, -, -⟩
    · exact .keep _
    · rw [show db'.worker? wid = (endWorkerOpt db workerId clock.now).worker? wid from
        congrArg (Table.get? · wid) hw]
      cases workerId with
      | none => exact .keep _
      | some w => exact workerChange_endWorkerRow _ db w clock.now wid
  | endWorker w =>
    cases h
    exact workerChange_endWorkerRow _ db w clock.now wid
  | setWorkerSessionUuid w uuid =>
    cases h
    simp only [Db.worker?, Db.updateWorkers, Table.get?_updateWhere]
    cases db.worker.get? wid with
    | none => exact .keep _
    | some row =>
      refine .step ?_
      dsimp only
      split
      · exact ⟨fun _ => rfl, rfl⟩
      · exact WorkerStep.refl row
  | deleteTask tid =>
    cases h
    rw [Db.worker?_deleteTaskRows]
    cases db.worker? wid with
    | none => exact .keep _
    | some w =>
      by_cases htid : w.taskId = tid
      · simp only [Option.filter, htid, ne_eq, not_true_eq_false, decide_false,
          Bool.false_eq_true, ↓reduceIte]
        exact .delete htid.symm
      · simp only [Option.filter, ne_eq, htid, not_false_eq_true, decide_true, ↓reduceIte]
        exact .keep _
  | _ =>
    unfold Db.worker?
    rw [worker_eq_of_keepsWorkers (by exact trivial) h]
    exact .keep _

end TransactionLemmas

/-! ## Runs -/

/-- A call of one process, with the clock readings that it made. -/
structure Call where
  {α : Type}
  tx : Transaction α
  clock : Clock

namespace Call

/-- What the call returns. -/
def result (settings : Settings) (c : Call) (db : Db) : Except PyErr c.α :=
  (c.tx.exec settings c.clock db).1

/-- The database that the call leaves. -/
def commit (settings : Settings) (c : Call) (db : Db) : Db := (c.tx.exec settings c.clock db).2

/-- The tasks that a claim returns. -/
def claimed (settings : Settings) (c : Call) (db : Db) : List Task :=
  match c with
  | ⟨.claimQueuedTasks maxActive, clock⟩ =>
    match ((Transaction.claimQueuedTasks maxActive).exec settings clock db).1 with
    | .ok tasks => tasks
    | .error _ => []
  | _ => []

end Call

/-- The transactions of all threads and processes, in the order in which SQLite serialises
them. -/
def run (settings : Settings) (calls : List Call) (db : Db) : Db :=
  calls.foldl (fun db c => c.commit settings db) db

/-- Every call of the run meets `ok` in the state in which it is made. -/
def Respects (settings : Settings) (ok : Db → Call → Prop) : List Call → Db → Prop
  | [], _ => True
  | c :: calls, db => ok db c ∧ Respects settings ok calls (c.commit settings db)

namespace RunLemmas

open TransactionLemmas

variable {settings : Settings} {db : Db}

theorem commit_row (c : Call) (tid : TaskId) :
    RowChange c.tx tid (db.task? tid) ((c.commit settings db).task? tid) :=
  exec_row (Prod.ext rfl rfl : c.tx.exec settings c.clock db = (_, c.commit settings db)) tid

theorem commit_worker (c : Call) (wid : WorkerId) :
    WorkerChange c.tx (db.worker? wid) ((c.commit settings db).worker? wid) :=
  exec_worker (Prod.ext rfl rfl : c.tx.exec settings c.clock db = (_, c.commit settings db)) wid

theorem commit_writes {c : Call} {tid : TaskId} {st : TaskState}
    (h : (c.commit settings db).state? tid = some st) :
    db.state? tid = some st ∨ c.tx.Writes tid st :=
  exec_writes (Prod.ext rfl rfl : c.tx.exec settings c.clock db = (_, c.commit settings db)) h

@[simp] theorem run_nil : run settings [] db = db := rfl

@[simp] theorem run_cons (c : Call) (calls : List Call) :
    run settings (c :: calls) db = run settings calls (c.commit settings db) := rfl

theorem run_append (calls calls' : List Call) :
    run settings (calls ++ calls') db = run settings calls' (run settings calls db) :=
  List.foldl_append

theorem respects_append {ok : Db → Call → Prop} {calls calls' : List Call}
    (h : Respects settings ok (calls ++ calls') db) : Respects settings ok calls db := by
  induction calls generalizing db with
  | nil => trivial
  | cons c calls ih => exact ⟨h.1, ih h.2⟩

/-- What every permitted call preserves holds after every run. -/
theorem run_invariant {ok : Db → Call → Prop} {P : Db → Prop}
    (hstep : ∀ db c, ok db c → P db → P (c.commit settings db)) {calls : List Call}
    (hok : Respects settings ok calls db) (h : P db) : P (run settings calls db) := by
  induction calls generalizing db with
  | nil => exact h
  | cons c calls ih => exact ih hok.2 (hstep db c hok.1 h)

/-- A property that a run gains is gained by one of its calls. -/
theorem run_crossing {P : Db → Prop} {calls : List Call} (h₀ : ¬ P db)
    (h₁ : P (run settings calls db)) :
    ∃ before c after, calls = before ++ c :: after ∧ ¬ P (run settings before db) ∧
      P (c.commit settings (run settings before db)) := by
  induction calls generalizing db with
  | nil => exact absurd h₁ h₀
  | cons c calls ih =>
    by_cases h : P (c.commit settings db)
    · exact ⟨[], c, calls, rfl, h₀, h⟩
    · obtain ⟨before, c', after, rfl, hb, hc⟩ := ih h h₁
      exact ⟨c :: before, c', after, rfl, hb, hc⟩

end RunLemmas

end Flotilla
