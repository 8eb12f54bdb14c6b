import Mathlib.Data.String.Basic
import KerSorMonitor.Lib.Related
import KerSorMonitor.Flotilla.SqlStore

/-!
# The rows refine the records

The tables of SQLite rows represent the tables of records, row by row, and every method of the store
returns on the rows what it returns on the records and leaves tables that represent each other. So a
run of the store over a database file is one over the records, as long as the dictionaries that are
written are read back from their JSON text.

Results:
1. `stores_insertTask`, `stores_updateTasks`, ...: the statements.
2. `agree_setTaskState`, ...: the methods.
3. `exec_agree`: every transaction.
4. `run_refines`: every run.
-/

namespace Flotilla

open Sql Keyed

namespace Rows

/-- The rows represent the records. -/
structure Stores (limits : PyJson.Limits) (s : Database) (db : Db) : Prop where
  project : List.Forall₂ (ProjectRow limits) s.project db.project.rows
  task : List.Forall₂ (TaskRow limits) s.task db.task.rows
  worker : List.Forall₂ (WorkerRow limits) s.worker db.worker.rows
  event : List.Forall₂ (IsEventRow limits) s.event db.event.rows
  host : List.Forall₂ HostRow s.host db.host.rows
  eventSeq : s.eventSeq = db.eventSeq

/-- The same outcome, and tables that represent each other. -/
def Agree {α : Type} (limits : PyJson.Limits) (x : Except PyErr α × Database)
    (y : Except PyErr α × Db) : Prop :=
  x.1 = y.1 ∧ Stores limits x.2 y.2

/-- The same of a body, after which the tables do not matter if it raises. -/
def BodyAgree {α : Type} (limits : PyJson.Limits) (x : Except PyErr α × Database)
    (y : Except PyErr α × Db) : Prop :=
  x.1 = y.1 ∧ ∀ a, y.1 = .ok a → Stores limits x.2 y.2

/-- A statement violates the same constraint, or leaves tables that represent each other. -/
def Same (limits : PyJson.Limits) : Except PyErr Database → Except PyErr Db → Prop
  | .ok s, .ok db => Stores limits s db
  | .error e, .error e' => e = e'
  | _, _ => False

/-- The text of a dictionary is read back. -/
def Writable (limits : PyJson.Limits) (d : JsonObj) : Prop :=
  PyJson.writable limits limits.maxDepth (.obj d) = true

section

variable {limits : PyJson.Limits} {s : Database} {db : Db} {α : Type}

theorem Same.cases {x : Except PyErr Database} {y : Except PyErr Db} (h : Same limits x y) :
    (∃ s db, x = .ok s ∧ y = .ok db ∧ Stores limits s db) ∨ ∃ e, x = .error e ∧ y = .error e := by
  cases x with
  | error e =>
    cases y with
    | error e' =>
      cases h
      exact Or.inr ⟨e, rfl, rfl⟩
    | ok db => exact h.elim
  | ok s =>
    cases y with
    | error e' => exact h.elim
    | ok db => exact Or.inl ⟨s, db, rfl, rfl, h⟩

theorem BodyAgree.unchanged (h : Stores limits s db) (r : Except PyErr α) :
    BodyAgree limits (r, s) (r, db) :=
  ⟨rfl, fun _ _ => h⟩

theorem BodyAgree.raised (e : PyErr) :
    BodyAgree limits ((.error e, s) : Except PyErr α × Database) (.error e, db) :=
  ⟨rfl, fun _ h => by cases h⟩

end

namespace RefinementLemmas

variable {limits : PyJson.Limits} {s : Database} {db : Db} {α : Type}

theorem stores_init : Stores limits {} Db.init where
  project := .nil
  task := .nil
  worker := .nil
  event := .nil
  host := .nil
  eventSeq := rfl

theorem connection_agree {body : Database → Except PyErr α × Database}
    {body' : Db → Except PyErr α × Db} (h : Stores limits s db)
    (hbody : BodyAgree limits (body s) (body' db)) :
    Agree limits (connection body s) (Flotilla.connection body' db) := by
  obtain ⟨hresult, hstores⟩ := hbody
  unfold connection Flotilla.connection
  rcases hs : body s with ⟨r, s'⟩
  rcases hd : body' db with ⟨r', db'⟩
  rw [hs, hd] at hresult hstores
  cases hresult
  cases r with
  | error e => exact ⟨rfl, h⟩
  | ok a => exact ⟨rfl, hstores a rfl⟩

/-! ## Conditions -/

/-- The values of a key column. -/
structure KeyColumn {C ρ κ : Type} [DecidableEq κ] (R : Row C → ρ → Prop) (key : ρ → κ) (c : C)
    (value : κ → Value) : Prop where
  column : ∀ r a, R r a → r c = value (key a)
  eq : ∀ k k', (value k).eq (value k') = decide (k = k')

theorem taskIds : KeyColumn (TaskRow limits) Task.id .id .text :=
  ⟨fun _ _ h => h.id, Value.text_eq⟩

theorem projectIds : KeyColumn (ProjectRow limits) Project.id .id .text :=
  ⟨fun _ _ h => h.id, Value.text_eq⟩

theorem hostIds : KeyColumn HostRow Host.id .id .text :=
  ⟨fun _ _ h => h.id, Value.text_eq⟩

theorem workerIds : KeyColumn (WorkerRow limits) Worker.id .id fun wid => .text wid.text :=
  ⟨fun _ _ h => h.id, fun wid wid' => by simp [WorkerId.text_inj]⟩

section Keys

variable {C ρ κ : Type} [DecidableEq κ] {key : ρ → κ} {R : Row C → ρ → Prop} {rows : List (Row C)}
  {t : Table key} {c : C} {value : κ → Value} (hc : KeyColumn R key c value)
include hc

theorem key_eq {r : Row C} {a : ρ} (h : R r a) (k : κ) : (r c).eq (value k) = decide (key a = k) := by
  rw [hc.column r a h, hc.eq]

theorem hasRow_eq (h : List.Forall₂ R rows t.rows) (k : κ) :
    hasRow rows c (value k) = decide (t.Has k) := by
  refine (Related.any (R := R) (fun r a hr => key_eq hc hr k) h).trans ?_
  rw [Bool.eq_iff_iff, List.any_eq_true, decide_eq_true_iff]
  simp only [decide_eq_true_eq]
  exact Iff.rfl

theorem fetch_cases (h : List.Forall₂ R rows t.rows) (k : κ) :
    (fetch rows c (value k) = none ∧ t.get? k = none) ∨
      ∃ r a, fetch rows c (value k) = some r ∧ t.get? k = some a ∧ R r a :=
  Related.find? (R := R) (fun _ _ hr => key_eq hc hr k) h

end Keys

/-- A key is that of one row, if any. -/
theorem countP_key {ρ κ : Type} [DecidableEq κ] {key : ρ → κ} (t : Table key) (k : κ)
    (q : ρ → Bool) :
    t.rows.countP (fun r => key r = k && q r) = if (t.get? k).any q then 1 else 0 := by
  split
  · next hany =>
    obtain ⟨a, ha, hq⟩ := (Option.any_eq_true _ _).mp hany
    obtain ⟨hmem, hkey⟩ := Table.get?_eq_some_iff.mp ha
    have hle : t.rows.countP (fun r => key r = k && q r) ≤ (t.rows.map key).count k := by
      rw [List.count, List.countP_map]
      refine List.countP_mono_left fun r _ hr => ?_
      simp only [Bool.and_eq_true, decide_eq_true_eq] at hr
      simp [hr.1]
    have hone : (t.rows.map key).count k = 1 :=
      List.count_eq_one_of_mem t.nodup (hkey ▸ List.mem_map_of_mem hmem)
    have hpos : 0 < t.rows.countP (fun r => key r = k && q r) :=
      List.countP_pos_iff.mpr ⟨a, hmem, by simp [hkey, hq]⟩
    omega
  · next hany =>
    refine List.countP_eq_zero.mpr fun a ha hq => hany ?_
    simp only [Bool.and_eq_true, decide_eq_true_eq] at hq
    rw [Table.get?_eq_some_iff.mpr ⟨ha, hq.1⟩]
    exact hq.2

theorem name_inj (st st' : TaskState) : st.name = st'.name ↔ st = st' := by
  refine ⟨fun h => ?_, congrArg _⟩
  have hst := TaskState.ofName?_name st
  rw [h, TaskState.ofName?_name] at hst
  exact (Option.some.inj hst).symm

theorem state_eq {r : Row TaskColumn} {t : Task} (h : TaskRow limits r t) (st : TaskState) :
    (r .state).eq (.text st.name) = decide (t.state = st) := by
  rw [h.state, Value.text_eq]
  simp only [name_inj]

theorem inState_eq {r : Row TaskColumn} {t : Task} (h : TaskRow limits r t) (tid : TaskId)
    (st : TaskState) :
    inState (.text tid) (.text st.name) r = (decide (t.id = tid) && decide (t.state = st)) := by
  rw [inState, key_eq taskIds h, state_eq h]

/-! ## Statements -/

theorem same_insertTask (h : Stores limits s db) {t : Task} (hreq : Writable limits t.resourceReq)
    (hmeta : Writable limits t.metadata) : Same limits (insertTask t s) (db.insertTask t) := by
  have hrow := taskRow_insert t hreq hmeta
  unfold insertTask Db.insertTask
  dsimp only
  rw [hrow.id, hrow.projectId, hasRow_eq taskIds h.task, hasRow_eq projectIds h.project]
  simp only [decide_eq_true_eq]
  split
  · exact rfl
  split
  · exact { h with task := Related.concat h.task hrow }
  · exact rfl

theorem same_insertHost (h : Stores limits s db) (x : HostRecord) :
    Same limits (insertHost x s) (db.insertHost x.toHost) := by
  have hrow := hostRow_insert x
  unfold insertHost Db.insertHost
  dsimp only
  rw [hrow.id, hasRow_eq hostIds h.host]
  simp only [decide_eq_true_eq]
  split
  · exact rfl
  · exact { h with host := Related.concat h.host hrow }

theorem same_insertWorker (h : Stores limits s db) {w : WorkerRecord} (hextra : Writable limits w.extra) :
    Same limits (insertWorker w s) (db.insertWorker w.toWorker) := by
  have hrow := workerRow_insert w hextra
  unfold insertWorker Db.insertWorker
  dsimp only
  rw [hrow.id, hrow.taskId, hasRow_eq workerIds h.worker, hasRow_eq taskIds h.task]
  simp only [decide_eq_true_eq]
  split
  · exact rfl
  split
  · exact { h with worker := Related.concat h.worker hrow }
  · exact rfl

theorem same_insertEvent (h : Stores limits s db) {e : Event} (hpayload : Writable limits e.payload) :
    Same limits (insertEvent e s) (db.insertEvent e) := by
  have hrow := eventRow_insert { e with id := db.eventSeq + 1 } hpayload
  unfold insertEvent Db.insertEvent
  dsimp only
  rw [h.eventSeq, hrow.taskId, hasRow_eq taskIds h.task]
  simp only [decide_eq_true_eq]
  split
  · exact { h with event := Related.concat h.event hrow, eventSeq := rfl }
  · exact rfl

/-- `UPDATE task`: the rows that meet the condition, and what becomes of them. -/
theorem stores_updateTasks (h : Stores limits s db) {p : Row TaskColumn → Bool} {q : Task → Bool}
    (hpq : ∀ r t, TaskRow limits r t → p r = q t) {assignments : List (TaskColumn × Value)}
    {f : Task → Task} (hf : ∀ r t, TaskRow limits r t → TaskRow limits (update assignments r) (f t))
    (hid : ∀ t, (f t).id = t.id) (hproject : ∀ t, (f t).projectId = t.projectId) :
    Stores limits { s with task := (updateWhere s.task p assignments).2 }
      (db.updateTasks q f hid hproject) :=
  { h with task := Related.rewrite hpq (fun r t hr _ => hf r t hr) h.task }

theorem stores_setStates (h : Stores limits s db) {p : Row TaskColumn → Bool} {q : Task → Bool}
    (hpq : ∀ r t, TaskRow limits r t → p r = q t) (st : TaskState) (now : String) :
    Stores limits { s with task := (updateWhere s.task p
      [(.state, .text st.name), (.updatedAt, .text now)]).2 } (db.setStates q st now) := by
  refine stores_updateTasks h hpq (fun r t hr => ?_) _ _
  exact { hr with state := rfl, updatedAt := rfl }

theorem stores_updateWorkers (h : Stores limits s db) {p : Row WorkerColumn → Bool}
    {q : Worker → Bool} (hpq : ∀ r w, WorkerRow limits r w → p r = q w)
    {assignments : List (WorkerColumn × Value)} {f : Worker → Worker}
    (hf : ∀ r w, WorkerRow limits r w → WorkerRow limits (update assignments r) (f w))
    (hid : ∀ w, (f w).id = w.id) (htask : ∀ w, (f w).taskId = w.taskId) :
    Stores limits { s with worker := (updateWhere s.worker p assignments).2 }
      (db.updateWorkers q f hid htask) :=
  { h with worker := Related.rewrite hpq (fun r w hr _ => hf r w hr) h.worker }

theorem active_eq {r : Row WorkerColumn} {w : Worker} (h : WorkerRow limits r w) :
    (r .endedAt).isNull = w.isActive := by
  rw [h.endedAt, Value.isNull_ofText]
  rfl

theorem stores_endWorkerRow (h : Stores limits s db) (wid : WorkerId) (now : String) :
    Stores limits (endWorkerRow now wid.text s) (db.endWorkerRow wid now) := by
  refine stores_updateWorkers h (fun r w hr => ?_) (fun r w hr => ?_) _ _
  · rw [key_eq workerIds hr wid, active_eq hr]
  · exact { hr with endedAt := rfl }

theorem stores_endWorkerIf (h : Stores limits s db) (workerId : Option WorkerId) (now : String) :
    Stores limits (endWorkerIf now (workerId.map WorkerId.text) s)
      (Store.endWorkerOpt db workerId now) := by
  cases workerId with
  | none => exact h
  | some wid =>
    have hne : wid.text ≠ "" := fun heq => by
      have hlist := congrArg String.toList heq
      simp [WorkerId.text] at hlist
    simp only [Option.map_some, endWorkerIf, if_neg hne]
    exact stores_endWorkerRow h wid now

/-! ## Methods that read -/

theorem getProject_eq (h : Stores limits s db) (pid : String) :
    (getProject limits pid s).map (·.map ProjectRecord.toProject) =
      .ok (Store.getProject pid db) := by
  unfold getProject Store.getProject
  rcases fetch_cases projectIds h.project pid with ⟨hs, hd⟩ | ⟨r, p, hs, hd, hr⟩
  · rw [hs, hd]
    rfl
  · obtain ⟨config, hread⟩ := projectFromRow_eq hr
    rw [hs, hd, fetched, hread]
    rfl

theorem getHost_eq (h : Stores limits s db) (hid : String) :
    (getHost hid s).map (·.map HostRecord.toHost) = .ok (Store.getHost hid db) := by
  unfold getHost Store.getHost
  rcases fetch_cases hostIds h.host hid with ⟨hs, hd⟩ | ⟨r, x, hs, hd, hr⟩
  · rw [hs, hd]
    rfl
  · obtain ⟨record, hread, rfl⟩ := hostFromRow_eq hr
    rw [hs, hd, fetched, hread]
    rfl

theorem getTask_eq (h : Stores limits s db) (tid : TaskId) :
    getTask limits tid s = .ok (Store.getTask tid db) := by
  unfold getTask Store.getTask Db.task?
  rcases fetch_cases taskIds h.task tid with ⟨hs, hd⟩ | ⟨r, t, hs, hd, hr⟩
  · rw [hs, hd]
    rfl
  · rw [hs, hd, fetched, taskFromRow_eq hr]
    rfl

theorem getWorker_eq (h : Stores limits s db) (wid : WorkerId) :
    (getWorker limits wid.text s).map (·.map WorkerRecord.toWorker) =
      .ok (Store.getWorker wid db) := by
  unfold getWorker Store.getWorker Db.worker?
  rcases fetch_cases workerIds h.worker wid with ⟨hs, hd⟩ | ⟨r, w, hs, hd, hr⟩
  · rw [hs, hd]
    rfl
  · obtain ⟨extra, hread⟩ := workerFromRow_eq hr
    rw [hs, hd, fetched, hread]
    rfl

theorem taskOrder_iff {r r' : Row TaskColumn} {t t' : Task} (hr : TaskRow limits r t)
    (hr' : TaskRow limits r' t') : orderBy [.id] r r' = true ↔ t.id ≤ t'.id := by
  rw [orderBy_singleton, hr.id, hr'.id, Value.text_le, decide_eq_true_iff]

theorem allTasks_eq (h : Stores limits s db) : allTasks limits s = .ok (Store.allTasks db) := by
  have hsorted := Related.insertionSort (R := TaskRow limits)
    (fun _ _ _ _ hr hr' => taskOrder_iff hr hr') h.task
  have hread := Related.mapM (g := id) (fun r t hr => taskFromRow_eq hr) hsorted
  rwa [List.map_id] at hread

theorem existingTaskIds_eq (h : Stores limits s db) (ids : List TaskId) :
    existingTaskIds ids s = Store.existingTaskIds ids db := by
  unfold existingTaskIds Store.existingTaskIds
  refine List.filter_congr fun tid htid => ?_
  have hfound : (s.task.filter fun r => ids.any fun tid => (r .id).eq (.text tid)).map (fun r => r .id) =
      (db.task.rows.filter fun t => ids.contains t.id).map fun t => Value.text t.id := by
    refine Related.map (R := TaskRow limits) (fun r t hr => hr.id)
      (Related.filter (fun r t hr => ?_) h.task)
    rw [Bool.eq_iff_iff, List.any_eq_true, List.contains_iff_mem]
    simp [key_eq taskIds hr]
  rw [hfound, Bool.eq_iff_iff, List.contains_iff_mem, decide_eq_true_iff]
  simp only [List.mem_map, List.mem_filter, List.contains_iff_mem, Value.text.injEq]
  constructor
  · rintro ⟨t, ⟨ht, -⟩, rfl⟩
    exact ⟨t, ht, rfl⟩
  · rintro ⟨t, ht, rfl⟩
    exact ⟨t, ⟨ht, htid⟩, rfl⟩

/-! ## Task states -/

theorem transitionFrom_name (st : TaskState) (target : String) :
    transitionFrom (.text st.name) target = transition st target := by
  unfold transitionFrom
  rw [stateField_name]
  rfl

theorem contains_names (states : List TaskState) (st : TaskState) :
    (states.map fun st => Value.text st.name).contains (.text st.name) = states.contains st := by
  rw [Bool.eq_iff_iff, List.contains_iff_mem, List.contains_iff_mem, List.mem_map]
  simp only [Value.text.injEq, name_inj, exists_eq_right]

/-- `rowcount` of an update that names a task and its state. -/
theorem rowcount_eq (h : Stores limits s db) (tid : TaskId) (st : TaskState)
    (assignments : List (TaskColumn × Value)) :
    (updateWhere s.task (inState (.text tid) (.text st.name)) assignments).1 =
      if (db.task? tid).any fun t => t.state = st then 1 else 0 :=
  (Related.countP (R := TaskRow limits) (fun _ _ hr => inState_eq hr tid st) h.task).trans
    (countP_key db.task tid fun t => t.state = st)

theorem fetch_task (h : Stores limits s db) (tid : TaskId) :
    (fetch s.task .id (.text tid) = none ∧ db.task? tid = none) ∨
      ∃ r t, fetch s.task .id (.text tid) = some r ∧ db.task? tid = some t ∧ TaskRow limits r t :=
  fetch_cases taskIds h.task tid

theorem setTaskState_agree (h : Stores limits s db) (now : String) (tid : TaskId)
    (newState : String) (expected : Option (List TaskState)) :
    Agree limits (setTaskState now tid newState expected s)
      (Store.setTaskState now tid newState expected db) := by
  unfold setTaskState Store.setTaskState
  refine connection_agree h ?_
  rcases fetch_task h tid with ⟨hs, hd⟩ | ⟨r, t, hs, hd, hr⟩
  · rw [hs, hd]
    exact .unchanged h _
  · rw [hs, hd]
    simp only [hr.state, contains_names, transitionFrom_name]
    split
    · exact .unchanged h _
    cases htransition : transition t.state newState with
    | error e => exact .raised e
    | ok st =>
      obtain rfl := TaskState.name_of_ofName? (transition_eq_ok htransition).1
      refine ⟨?_, fun _ _ => stores_setStates h (fun r t' hr => inState_eq hr tid t.state) st now⟩
      simp [rowcount_eq h, hd]

/-! ## Claims -/

theorem claimRows_agree (now : String) {rows : List (Row TaskColumn)} {tasks : List Task}
    (hrows : List.Forall₂ (TaskRow limits) rows tasks) (h : Stores limits s db) :
    (claimRows limits now rows s).1 = .ok (Store.claimRows now tasks db).1 ∧
      Stores limits (claimRows limits now rows s).2 (Store.claimRows now tasks db).2 := by
  induction hrows generalizing s db with
  | nil => exact ⟨rfl, h⟩
  | @cons r t rows tasks hr _ ih =>
    have hstores := stores_setStates h (fun r t' hr' => inState_eq hr' t.id .queued) .dispatching now
    obtain ⟨hclaimed, hafter⟩ := ih hstores
    have hcount := rowcount_eq h t.id .queued
      [(.state, .text TaskState.dispatching.name), (.updatedAt, .text now)]
    simp only [TaskState.name] at hclaimed hafter hcount
    simp only [claimRows, Store.claimRows, hr.id, hcount, taskFromRow_eq hr]
    cases (db.task? t.id).any fun t' => decide (t'.state = .queued) with
    | true =>
      refine ⟨?_, hafter⟩
      rw [if_pos (if_pos rfl), hclaimed]
      rfl
    | false => exact ⟨hclaimed, hafter⟩

/-- The orders of the queue. -/
theorem queueOrder_iff {r r' : Row TaskColumn} {t t' : Task} (hr : TaskRow limits r t)
    (hr' : TaskRow limits r' t') :
    orderBy [.updatedAt, .id] r r' = true ↔ Store.queueOrder t t' := by
  rw [orderBy, orderBy_singleton, hr.id, hr'.id, hr.updatedAt, hr'.updatedAt]
  simp only [Value.text_le, Value.text.injEq, Store.queueOrder]
  split
  · next heq => simp [heq]
  · next hne =>
    rw [decide_eq_true_iff]
    exact ⟨fun hle => Or.inl (lt_of_le_of_ne hle hne),
      fun h => h.elim le_of_lt fun h => absurd h.1 hne⟩

theorem claimQueuedTasks_agree (h : Stores limits s db) (now : String) (maxActive : Int) :
    Agree limits (claimQueuedTasks limits now maxActive s)
      (Store.claimQueuedTasks now maxActive db) := by
  unfold claimQueuedTasks Store.claimQueuedTasks
  by_cases hmax : maxActive ≤ 0
  · rw [if_pos hmax, if_pos hmax]
    exact ⟨rfl, h⟩
  rw [if_neg hmax, if_neg hmax]
  refine connection_agree h ?_
  have hactive : s.worker.countP (fun r => (r .endedAt).isNull) = Store.activeWorkers db :=
    Related.countP (fun _ _ hr => active_eq hr) h.worker
  have hdispatching : s.task.countP (fun r => (r .state).eq (.text "DISPATCHING")) =
      Store.dispatchingTasks db :=
    Related.countP (R := TaskRow limits) (fun _ _ hr => state_eq hr .dispatching) h.task
  have hqueued := Related.insertionSort (R := TaskRow limits)
    (fun _ _ _ _ hr hr' => queueOrder_iff hr hr') (Related.filter (R := TaskRow limits) (fun _ _ hr => state_eq hr .queued) h.task)
  simp only [hactive, hdispatching]
  split
  · exact .unchanged h _
  · obtain ⟨hclaimed, hafter⟩ := claimRows_agree now (List.forall₂_take _ hqueued) h
    exact ⟨hclaimed, fun _ _ => hafter⟩

theorem markLost_cases (now : String) (hlost : Writable limits lostPayload) (ids : List TaskId)
    (h : Stores limits s db) :
    (∃ s' db', markLost now ids s = .ok s' ∧ Store.markLostRows now ids db = (.ok (), db') ∧
      Stores limits s' db') ∨
    ∃ e db', markLost now ids s = .error e ∧ Store.markLostRows now ids db = (.error e, db') := by
  induction ids generalizing s db with
  | nil => exact Or.inl ⟨s, db, rfl, rfl, h⟩
  | cons tid ids ih =>
    have hstores := stores_setStates h (fun r t hr => inState_eq hr tid .dispatching) .lost now
    have hevent := same_insertEvent hstores (e := lostEvent now tid) hlost
    simp only [TaskState.name, lostEvent, lostPayload] at hevent
    rw [markLost, Store.markLostRows]
    simp only [lostEvent, lostPayload]
    rcases hevent.cases with ⟨s', db', hs, hd, hstores'⟩ | ⟨e, hs, hd⟩
    · simp only [hs, hd]
      exact ih hstores'
    · simp only [hs, hd]
      exact Or.inr ⟨e, _, rfl, rfl⟩

theorem markStaleDispatchingLost_agree (h : Stores limits s db) (hlost : Writable limits lostPayload)
    (now cutoff : String) :
    Agree limits (markStaleDispatchingLost now cutoff s)
      (Store.markStaleDispatchingLost now cutoff db) := by
  unfold markStaleDispatchingLost Store.markStaleDispatchingLost
  refine connection_agree h ?_
  have hstale : (((s.task.filter fun r => (r .state).eq (.text "DISPATCHING") &&
      (r .updatedAt).lt (.text cutoff)).insertionSort fun a b => orderBy [.id] a b = true).mapM
        fun r => strField (r .id)) = .ok (Store.staleDispatching cutoff db) := by
    have hfilter := Related.filter (R := TaskRow limits) (q := fun t =>
        t.state = .dispatching && t.updatedAt < cutoff)
      (p := fun r => (r .state).eq (.text "DISPATCHING") && (r .updatedAt).lt (.text cutoff))
      (fun r t hr => ?_) h.task
    · have hsorted := Related.insertionSort (R := TaskRow limits)
        (fun _ _ _ _ hr hr' => taskOrder_iff hr hr') hfilter
      have hids := Related.mapM (g := Task.id) (fun r t hr => congrArg strField hr.id) hsorted
      refine hids.trans (congrArg _ ?_)
      exact List.map_insertionSort _ _ Task.id _ fun a _ b _ => Iff.rfl
    · refine congrArg₂ (· && ·) (state_eq hr .dispatching) ?_
      rw [hr.updatedAt, Value.text_lt]
  simp only [hstale]
  rcases markLost_cases now hlost (Store.staleDispatching cutoff db) h with
    ⟨s', db', hs, hd, hstores⟩ | ⟨e, db', hs, hd⟩
  · simp only [hs, hd]
    exact ⟨rfl, fun _ _ => hstores⟩
  · simp only [hs, hd]
    exact .raised e

/-! ## Workers -/

theorem activateWorker_agree (h : Stores limits s db) (now : String) (tid : TaskId)
    (worker : WorkerRecord) (hextra : Writable limits worker.extra) (workspace : String) :
    Agree limits (activateWorker now tid worker workspace s)
      (Store.activateWorker now tid worker.toWorker workspace db) := by
  unfold activateWorker Store.activateWorker
  refine connection_agree h ?_
  rcases fetch_task h tid with ⟨hs, hd⟩ | ⟨r, t, hs, htask, hr⟩
  · rw [hs, hd]
    exact .unchanged h _
  rw [hs, htask]
  have hstate : r .state = .text "DISPATCHING" ↔ t.state = .dispatching := by
    rw [hr.state, Value.text.injEq]
    exact name_inj t.state .dispatching
  by_cases hd : t.state = .dispatching
  case neg =>
    simp only [if_pos (mt hstate.mp hd), if_pos hd]
    exact .unchanged h _
  simp only [hd, ne_eq, not_true_eq_false, if_false, hr.state, transitionFrom_name]
  cases htransition : transition .dispatching "RUNNING" with
  | error e => exact .raised e
  | ok st =>
    have hname := TaskState.name_of_ofName? (transition_eq_ok htransition).1
    rcases (same_insertWorker h hextra).cases with ⟨s', db', hs', hd', hstores⟩ | ⟨e, hs', hd'⟩
    · obtain ⟨-, -, -, hsame, -⟩ := Db.insertWorker_eq_ok hd'
      have hrow : db'.task? tid = some t := (congrArg (Table.get? · tid) hsame).trans htask
      have hcount := rowcount_eq hstores tid .dispatching
        [(.state, .text "RUNNING"), (.workspacePath, .text workspace), (.updatedAt, .text now)]
      simp only [TaskState.name, hrow, Option.any_some, hd, decide_true, if_true] at hcount
      simp only [hs', hd', hcount]
      refine ⟨rfl, fun _ _ => ?_⟩
      refine stores_updateTasks hstores (fun r t hr => inState_eq hr tid .dispatching)
        (f := fun t => { t with state := st, workspacePath := some workspace, updatedAt := now })
        (fun r t hr => ?_) (fun _ => rfl) fun _ => rfl
      exact { hr with state := congrArg Value.text hname.symm, workspacePath := rfl, updatedAt := rfl }
    · simp only [hs', hd']
      exact .raised e

theorem finishWorker_agree (h : Stores limits s db) (now : String) (tid : TaskId)
    (workerId : Option WorkerId) (terminalState : String) {event : Option Event}
    (hevent : ∀ e, event = some e → Writable limits e.payload) :
    Agree limits (finishWorker now tid (workerId.map WorkerId.text) terminalState event s)
      (Store.finishWorker now tid workerId terminalState event db) := by
  unfold finishWorker Store.finishWorker
  refine connection_agree h ?_
  rcases fetch_task h tid with ⟨hs, hd⟩ | ⟨r, t, hs, hd, hr⟩
  · rw [hs, hd]
    exact .unchanged h _
  rw [hs, hd]
  simp only [hr.state, transitionFrom_name]
  cases htransition : transition t.state terminalState with
  | error e => exact .raised e
  | ok st =>
    obtain rfl := TaskState.name_of_ofName? (transition_eq_ok htransition).1
    have hstores := stores_endWorkerIf
      (stores_setStates h (fun r t' hr' => inState_eq hr' tid t.state) st now) workerId now
    cases event with
    | none => exact ⟨rfl, fun _ _ => hstores⟩
    | some e =>
      rcases (same_insertEvent hstores (hevent e rfl)).cases with
        ⟨s', db', hs', hd', hafter⟩ | ⟨err, hs', hd'⟩
      · simp only [hs', hd']
        exact ⟨rfl, fun _ _ => hafter⟩
      · simp only [hs', hd']
        exact .raised err

theorem deleteTask_agree (h : Stores limits s db) (tid : TaskId) :
    Agree limits (deleteTask tid s) (Store.deleteTask tid db) := by
  unfold deleteTask Store.deleteTask
  refine connection_agree h ⟨rfl, fun _ _ => ?_⟩
  have hevent : ∀ r e, IsEventRow limits r e →
      (!(r .taskId).eq (.text tid)) = !decide (e.taskId = tid) := fun r e hr => by
    rw [hr.taskId, Value.text_eq]
  have hworker : ∀ r w, WorkerRow limits r w →
      (!(r .taskId).eq (.text tid)) = !decide (w.taskId = tid) := fun r w hr => by
    rw [hr.taskId, Value.text_eq]
  have htask : ∀ r t, TaskRow limits r t →
      (!(r .id).eq (.text tid)) = !decide (t.id = tid) := fun r t hr => by
    rw [hr.id, Value.text_eq]
  exact { h with
    event := Related.filter hevent h.event
    worker := Related.filter hworker h.worker
    task := Related.filter htask h.task }

/-- The order in which the active worker is chosen. -/
theorem newest_iff (r : Row WorkerColumn) (w : Worker) (r' : Row WorkerColumn) (w' : Worker)
    (hr : WorkerRow limits r w) (hr' : WorkerRow limits r' w') :
    orderByDesc .startedAt r r' = true ↔ w'.startedAt ≤ w.startedAt := by
  rw [orderByDesc, hr.startedAt, hr'.startedAt, Value.text_le, decide_eq_true_iff]

theorem activeWorkerId_eq (h : Stores limits s db) (tid : TaskId) :
    activeWorkerId tid s = .ok (Store.activeWorkerId tid db) := by
  unfold activeWorkerId Store.activeWorkerId
  have hactive := Related.filter (R := WorkerRow limits)
    (p := fun r => (r .taskId).eq (.text tid) && (r .endedAt).isNull)
    (q := fun w => w.taskId = tid && w.isActive)
    (fun r w hr => by rw [hr.taskId, Value.text_eq, active_eq hr]) h.worker
  have hsorted := Related.insertionSort (R := WorkerRow limits) newest_iff hactive
  rcases Related.getElem? hsorted 0 with ⟨hs, hd⟩ | ⟨r, w, hs, hd, hr⟩
  · rw [List.head?_eq_getElem?, List.head?_eq_getElem?, hs, hd]
    rfl
  · rw [List.head?_eq_getElem?, List.head?_eq_getElem?, hs, hd, fetched, hr.id,
      workerIdField_text]
    rfl

theorem setWorkerSessionUuid_agree (h : Stores limits s db) (wid : WorkerId) (uuid : String) :
    Agree limits (setWorkerSessionUuid wid.text uuid s) (Store.setWorkerSessionUuid wid uuid db) := by
  unfold setWorkerSessionUuid Store.setWorkerSessionUuid
  refine connection_agree h ⟨rfl, fun _ _ => ?_⟩
  refine stores_updateWorkers h (f := fun w => { w with sessionUuid := some uuid })
    (fun r w hr => ?_) (fun r w hr => ?_) (fun _ => rfl) fun _ => rfl
  · exact key_eq workerIds hr wid
  · exact { hr with sessionUuid := rfl }

/-! ## Inserts -/

/-- A method that is one statement. -/
theorem executing_agree (h : Stores limits s db) {statement : Database → Except PyErr Database}
    {body : Db → Except PyErr Unit × Db}
    (hstatement : (∃ s' db', statement s = .ok s' ∧ body db = (.ok (), db') ∧ Stores limits s' db') ∨
      ∃ e db', statement s = .error e ∧ body db = (.error e, db')) :
    Agree limits (executing statement s) (Flotilla.connection body db) := by
  refine connection_agree h ?_
  rcases hstatement with ⟨s', db', hs, hd, hstores⟩ | ⟨e, db', hs, hd⟩
  · rw [hd]
    simp only [hs]
    exact ⟨rfl, fun _ _ => hstores⟩
  · rw [hd]
    simp only [hs]
    exact .raised e

theorem createProject_agree (h : Stores limits s db) {p : ProjectRecord}
    (hconfig : Writable limits p.config) :
    Agree limits (createProject p s) (Store.createProject p.toProject db) := by
  have hrow := projectRow_insert p hconfig
  unfold createProject Store.createProject
  refine connection_agree h ?_
  dsimp only
  rw [hrow.id, hasRow_eq projectIds h.project]
  unfold Db.insertProject
  simp only [decide_eq_true_eq]
  split
  · exact .unchanged h _
  · exact ⟨rfl, fun _ _ => { h with project := Related.concat h.project hrow }⟩

theorem createHost_agree (h : Stores limits s db) (x : HostRecord) :
    Agree limits (createHost x s) (Store.createHost x.toHost db) := by
  unfold createHost Store.createHost
  refine executing_agree h ?_
  rcases (same_insertHost h x).cases with ⟨s', db', hs, hd, hstores⟩ | ⟨e, hs, hd⟩
  · exact Or.inl ⟨s', db', hs, by rw [hd], hstores⟩
  · exact Or.inr ⟨e, db, hs, by rw [hd]⟩

theorem createWorker_agree (h : Stores limits s db) {w : WorkerRecord}
    (hextra : Writable limits w.extra) :
    Agree limits (createWorker w s) (Store.createWorker w.toWorker db) := by
  unfold createWorker Store.createWorker
  refine executing_agree h ?_
  rcases (same_insertWorker h hextra).cases with ⟨s', db', hs, hd, hstores⟩ | ⟨e, hs, hd⟩
  · exact Or.inl ⟨s', db', hs, by rw [hd], hstores⟩
  · exact Or.inr ⟨e, db, hs, by rw [hd]⟩

theorem insertTasks_cases (tasks : List Task)
    (hjson : ∀ t ∈ tasks, Writable limits t.resourceReq ∧ Writable limits t.metadata)
    (h : Stores limits s db) :
    (∃ s' db', insertTasks tasks s = .ok s' ∧ Store.createTasksBody tasks db = (.ok (), db') ∧
      Stores limits s' db') ∨
    ∃ e db', insertTasks tasks s = .error e ∧ Store.createTasksBody tasks db = (.error e, db') := by
  induction tasks generalizing s db with
  | nil => exact Or.inl ⟨s, db, rfl, rfl, h⟩
  | cons t tasks ih =>
    obtain ⟨hreq, hmeta⟩ := hjson t List.mem_cons_self
    rw [insertTasks, Store.createTasksBody]
    rcases (same_insertTask h hreq hmeta).cases with ⟨s', db', hs, hd, hstores⟩ | ⟨e, hs, hd⟩
    · simp only [hs, hd]
      exact ih (fun t ht => hjson t (List.mem_cons_of_mem _ ht)) hstores
    · simp only [hs, hd]
      exact Or.inr ⟨e, _, rfl, rfl⟩

theorem createTasks_agree (h : Stores limits s db) (tasks : List Task)
    (hjson : ∀ t ∈ tasks, Writable limits t.resourceReq ∧ Writable limits t.metadata) :
    Agree limits (createTasks tasks s) (Store.createTasks tasks db) := by
  unfold createTasks Store.createTasks
  cases tasks with
  | nil => exact ⟨rfl, h⟩
  | cons t tasks => exact executing_agree h (insertTasks_cases _ hjson h)

/-! ## Events -/

theorem isStatus_eq {r : Row EventColumn} {e : EventRow} (h : IsEventRow limits r e) (tid : TaskId) :
    isStatus tid r = (decide (e.taskId = tid) && decide (e.type = "status")) := by
  rw [isStatus, h.taskId, h.type, Value.text_eq, Value.text_eq]

theorem statusRowsDesc_related (h : Stores limits s db) (tid : TaskId) :
    List.Forall₂ (IsEventRow limits) (statusRowsDesc tid s) (Store.statusRowsDesc tid db) := by
  unfold statusRowsDesc Store.statusRowsDesc
  refine Related.insertionSort (fun r e r' e' hr hr' => ?_)
    (Related.filter (R := IsEventRow limits) (fun r e hr => isStatus_eq hr tid) h.event)
  rw [orderByDesc, hr.id, hr'.id, Value.integer_le, decide_eq_true_iff]
  exact Int.ofNat_le

theorem statusEvents_eq (h : Stores limits s db) (tid : TaskId) (limit : Nat) :
    (statusEvents limits tid limit s).map (·.map EventRow.toEvent) =
      .ok (Store.statusEvents tid limit db) := by
  have hrows := List.rel_reverse (List.forall₂_take limit (statusRowsDesc_related h tid))
  have hread := Related.mapM (g := id) (fun r e hr => eventFromRow_eq hr) hrows
  unfold statusEvents
  rw [hread, List.map_id]
  rfl

theorem appendEvent_agree (h : Stores limits s db) (settings : Settings) {e : Event}
    (hpayload : Writable limits e.payload) :
    Agree limits (appendEvent settings e s) (Store.appendEvent settings e db) := by
  unfold appendEvent Store.appendEvent
  refine executing_agree h ?_
  rcases (same_insertEvent h hpayload).cases with ⟨s', db', hs, hd, hstores⟩ | ⟨err, hs, hd⟩
  · simp only [hs, hd, bind, Except.bind]
    by_cases htype : e.type = "status"
    case neg =>
      simp only [if_neg htype]
      exact Or.inl ⟨s', db', rfl, rfl, hstores⟩
    simp only [if_pos htype]
    have hdrop (n : Int) : ∀ r x, IsEventRow limits r x →
        (!(isStatus e.taskId r && (r .id).le (.integer n))) =
          !(decide (x.taskId = e.taskId) && decide (x.type = "status") && decide ((x.id : Int) ≤ n)) :=
      fun r x hr => by rw [isStatus_eq hr, hr.id, Value.integer_le]
    rcases Related.getElem? (statusRowsDesc_related hstores e.taskId)
      (max 1 settings.statusEventRetention).toNat with ⟨hr, hx⟩ | ⟨r, x, hr, hx, hrow⟩
    · simp only [lastDropped, hr, hx]
      refine Or.inl ⟨_, db', rfl, rfl, { hstores with event := ?_ }⟩
      have hfilter := Related.filter (hdrop (-1)) hstores.event
      have hall : db'.event.rows.filter (fun x => !(decide (x.taskId = e.taskId) &&
          decide (x.type = "status") && decide ((x.id : Int) ≤ -1))) = db'.event.rows := by
        refine List.filter_eq_self.mpr fun x _ => ?_
        have hid : ¬ (x.id : Int) ≤ -1 := by omega
        simp [hid]
      rw [hall] at hfilter
      exact hfilter
    · simp only [lastDropped, hr, hx]
      refine Or.inl ⟨_, _, rfl, rfl, { hstores with event := ?_ }⟩
      have hfilter := Related.filter (hdrop x.id) hstores.event
      simp only [Int.ofNat_le] at hfilter
      simp only [Option.elim_some, hrow.id]
      exact hfilter
  · simp only [hs, hd]
    exact Or.inr ⟨err, _, rfl, rfl⟩

end RefinementLemmas

/-! ## Transactions -/

/-- The dictionaries that a call writes are read back from their text. -/
def WritesJson (limits : PyJson.Limits) (rest : Rest) : {α : Type} → Transaction α → Prop
  | _, .createProject _ => Writable limits rest.config
  | _, .createTasks tasks => ∀ t ∈ tasks, Writable limits t.resourceReq ∧ Writable limits t.metadata
  | _, .markStaleDispatchingLost => Writable limits lostPayload
  | _, .activateWorker _ _ _ => Writable limits rest.extra
  | _, .createWorker _ => Writable limits rest.extra
  | _, .finishWorker _ _ _ event => ∀ e, event = some e → Writable limits e.payload
  | _, .appendEvent e => Writable limits e.payload
  | _, _ => True

namespace RefinementLemmas

open Transaction

theorem reading_agree {limits : PyJson.Limits} {s : Database} {db : Db} {α : Type}
    (h : Stores limits s db) {f : Database → Except PyErr α} {g : Db → α} (hfg : f s = .ok (g db)) :
    Agree limits (reading f s) (Transaction.reading g db) :=
  ⟨hfg, h⟩

/-- Every transaction does to the rows what it does to the records. -/
theorem exec_agree (settings : Settings) (clock : Clock) {rest : Rest} {s : Database} {db : Db}
    (h : Stores settings.limits s db) {α : Type} (tx : Transaction α)
    (hjson : WritesJson settings.limits rest tx) :
    Agree settings.limits (exec settings clock rest tx s) (tx.exec settings clock db) := by
  cases tx with
  | createProject p => exact createProject_agree h (p := ⟨p, rest.config⟩) hjson
  | getProject pid => exact reading_agree h (getProject_eq h pid)
  | createHost x => exact createHost_agree h ⟨x, rest.gpu, rest.notes, rest.createdAt⟩
  | getHost hid => exact reading_agree h (getHost_eq h hid)
  | createTasks tasks => exact createTasks_agree h tasks hjson
  | existingTaskIds ids =>
    exact reading_agree h (congrArg Except.ok (existingTaskIds_eq h ids))
  | getTask tid => exact reading_agree h (getTask_eq h tid)
  | allTasks => exact reading_agree h (allTasks_eq h)
  | setTaskState tid newState expected => exact setTaskState_agree h clock.now tid newState expected
  | claimQueuedTasks maxActive => exact claimQueuedTasks_agree h clock.now maxActive
  | releaseTaskClaim tid target => exact setTaskState_agree h clock.now tid target _
  | markStaleDispatchingLost =>
    exact markStaleDispatchingLost_agree h hjson clock.now clock.cutoff
  | activateWorker tid worker workspace =>
    exact activateWorker_agree h clock.now tid ⟨worker, rest.extra⟩ hjson workspace
  | finishWorker tid workerId terminalState event =>
    exact finishWorker_agree h clock.now tid workerId terminalState hjson
  | deleteTask tid => exact deleteTask_agree h tid
  | activeWorkerId tid => exact reading_agree h (activeWorkerId_eq h tid)
  | createWorker w => exact createWorker_agree h (w := ⟨w, rest.extra⟩) hjson
  | getWorker wid => exact reading_agree h (getWorker_eq h wid)
  | endWorker wid =>
    exact connection_agree h ⟨rfl, fun _ _ => stores_endWorkerRow h wid clock.now⟩
  | setWorkerSessionUuid wid uuid => exact setWorkerSessionUuid_agree h wid uuid
  | appendEvent e => exact appendEvent_agree h settings hjson
  | statusEvents tid limit => exact reading_agree h (statusEvents_eq h tid limit)

end RefinementLemmas

/-! ## Runs -/

/-- What the calls return. -/
abbrev Returned := List ((α : Type) × Except PyErr α)

/-- What a run of calls over the rows returns, and the tables that it leaves. -/
def runRows (settings : Settings) : List (Call × Rest) → Database → Returned × Database
  | [], s => ([], s)
  | (c, rest) :: calls, s =>
    let (r, s') := exec settings c.clock rest c.tx s
    let (rs, s'') := runRows settings calls s'
    (⟨c.α, r⟩ :: rs, s'')

/-- What the same calls return over the records. -/
def runRecords (settings : Settings) : List Call → Db → Returned × Db
  | [], db => ([], db)
  | c :: calls, db =>
    let (rs, db') := runRecords settings calls (c.commit settings db)
    (⟨c.α, c.result settings db⟩ :: rs, db')

theorem runRecords_snd (settings : Settings) (calls : List Call) (db : Db) :
    (runRecords settings calls db).2 = run settings calls db := by
  induction calls generalizing db with
  | nil => rfl
  | cons c calls ih => exact ih _

theorem run_agree (settings : Settings) (calls : List (Call × Rest)) {s : Database} {db : Db}
    (h : Stores settings.limits s db)
    (hjson : ∀ c ∈ calls, WritesJson settings.limits c.2 c.1.tx) :
    (runRows settings calls s).1 = (runRecords settings (calls.map Prod.fst) db).1 ∧
      Stores settings.limits (runRows settings calls s).2
        (runRecords settings (calls.map Prod.fst) db).2 := by
  induction calls generalizing s db with
  | nil => exact ⟨rfl, h⟩
  | cons c calls ih =>
    obtain ⟨hresult, hstores⟩ :=
      RefinementLemmas.exec_agree settings c.1.clock h c.1.tx (hjson c List.mem_cons_self)
    obtain ⟨hrest, hafter⟩ := ih hstores fun x hx => hjson x (List.mem_cons_of_mem _ hx)
    exact ⟨congrArg₂ List.cons (congrArg (Sigma.mk c.1.α) hresult) hrest, hafter⟩

/-- A task with nested dictionaries. -/
def nestedTask : Task where
  id := "t"
  projectId := "p"
  name := "n"
  spec := "s"
  state := .queued
  resourceReq := [("kind", .str "gpu"), ("share", .float (.dec 5 (-1)))]
  metadata := [("env", .obj [("NAME", .str "a \"b\"\n\u00e9")]),
    ("tags", .arr [.null, .bool true, .int (-7)])]

/-- It is created, claimed and finished. -/
def nestedRun : List (Call × Rest) :=
  [(⟨.createProject { id := "p", name := "p" }, ⟨"1", "0"⟩⟩, { config := [("retries", .int 3)] }),
   (⟨.createTasks [nestedTask], ⟨"2", "0"⟩⟩, {}),
   (⟨.claimQueuedTasks 4, ⟨"3", "0"⟩⟩, {}),
   (⟨.activateWorker "t" { id := ⟨"t", 0⟩, taskId := "t" } "/w", ⟨"4", "0"⟩⟩, {}),
   (⟨.appendEvent ⟨"t", "status", [("state", .str "running")], "5"⟩, ⟨"5", "0"⟩⟩, {}),
   (⟨.finishWorker "t" (some ⟨"t", 0⟩) "DONE" none, ⟨"6", "0"⟩⟩, {}),
   (⟨.allTasks, ⟨"7", "0"⟩⟩, {})]

end Rows

end Flotilla
