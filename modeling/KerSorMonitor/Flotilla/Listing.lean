import Mathlib.Data.List.Dedup
import KerSorMonitor.Flotilla.Views

/-!
# The list of a project (`flotilla/store.py`, `flotilla/routes.py`)

`list_tasks` reads the newest status of every task of a project with one query, `get_task` reads the
newest status of one task.

Results:
1. `get?_latestStatusByProject`: what the query has for a task of the project.
2. `list_eq_detail`: the list shows each task as its detail does.
-/

namespace Flotilla

open Keyed

namespace Store

/-- `list_tasks`. -/
def listTasks (pid : String) (db : Db) : List Task :=
  (db.task.rows.filter fun t => t.projectId = pid).insertionSort fun a b => a.id ≤ b.id

/-- `FROM event JOIN task ON task.id=event.task_id`, with its `WHERE`. -/
def projectStatusRows (pid : String) (db : Db) : List EventRow :=
  db.event.rows.filter fun e =>
    e.type = "status" && db.task.rows.any fun t => t.id = e.taskId && t.projectId = pid

/-- The subquery `latest`: each group with `MAX(event.id)`. -/
def latestStatusIds (pid : String) (db : Db) : List (TaskId × Nat) :=
  let joined := projectStatusRows pid db
  (joined.map fun e => e.taskId).dedup.map fun tid =>
    (tid, ((joined.filter fun e => e.taskId = tid).map EventRow.id).max?.getD 0)

/-- `latest_status_by_project`. -/
def latestStatusByProject (pid : String) (db : Db) : Dict TaskId JsonObj :=
  let rows := db.event.rows.flatMap fun e =>
    ((latestStatusIds pid db).filter fun latest => latest.2 = e.id).map fun _ => e
  rows.foldl (fun d row => Dict.set d row.taskId row.payload) Table.empty

end Store

namespace Views

/-- The answer of `get_task`; without the task it is a 404. -/
def getTask (tid : TaskId) (db : Db) : Option JsonObj :=
  (db.task? tid).map fun task => buildTaskView db task none false true

/-- The answer of `list_tasks`. -/
def listTasks (pid : String) (db : Db) : List JsonObj :=
  let latestStatus := Store.latestStatusByProject pid db
  (Store.listTasks pid db).map fun task =>
    buildTaskView db task (some ((Dict.get? latestStatus task.id).getD [])) false false

/-- A payload with the `spec` removed. -/
def withoutSpec (payload : JsonObj) : JsonObj := payload.filter fun kv => kv.1 ≠ "spec"

end Views

/-! ## The query -/

namespace Store

namespace ListingLemmas

variable {db : Db} {pid : String} {tid : TaskId}

theorem get?_foldl_set_of_not_mem {rows : List EventRow} (d : Dict TaskId JsonObj)
    (h : ∀ row ∈ rows, row.taskId ≠ tid) :
    Dict.get? (rows.foldl (fun d row => Dict.set d row.taskId row.payload) d) tid =
      Dict.get? d tid := by
  induction rows generalizing d with
  | nil => rfl
  | cons row rows ih =>
    rw [List.foldl_cons, ih _ fun x hx => h x (.tail _ hx), Dict.get?_set,
      if_neg (h row (.head _)).symm]

/-- A row is found under its task if there is no other row of the task. -/
theorem get?_foldl_set_of_mem {rows : List EventRow} {x : EventRow} (d : Dict TaskId JsonObj)
    (hx : x ∈ rows) (hunique : ∀ row ∈ rows, row.taskId = x.taskId → row = x) :
    Dict.get? (rows.foldl (fun d row => Dict.set d row.taskId row.payload) d) x.taskId =
      some x.payload := by
  induction rows generalizing d with
  | nil => exact absurd hx List.not_mem_nil
  | cons row rows ih =>
    rw [List.foldl_cons]
    by_cases hrest : x ∈ rows
    · exact ih _ hrest fun r hr => hunique r (.tail _ hr)
    · have hrow : x = row := (List.mem_cons.mp hx).resolve_right hrest
      have hothers : ∀ r ∈ rows, r.taskId ≠ x.taskId := fun r hr htid =>
        hrest (hunique r (.tail _ hr) htid ▸ hr)
      rw [get?_foldl_set_of_not_mem _ hothers, hrow, Dict.get?_set, if_pos rfl]

theorem mem_projectStatusRows {e : EventRow} :
    e ∈ projectStatusRows pid db ↔
      e ∈ db.event.rows ∧ e.type = "status" ∧
        ∃ t ∈ db.task.rows, t.id = e.taskId ∧ t.projectId = pid := by
  simp [projectStatusRows]

/-- The subquery has the newest status event of each task. -/
theorem mem_latestStatusIds {n : Nat} (h : (tid, n) ∈ latestStatusIds pid db) :
    ∃ e ∈ projectStatusRows pid db, e.taskId = tid ∧ e.id = n ∧
      ∀ e' ∈ projectStatusRows pid db, e'.taskId = tid → e'.id ≤ n := by
  obtain ⟨tid', hmem, heq⟩ := List.mem_map.mp h
  obtain ⟨rfl, hmax⟩ := Prod.mk.inj heq
  obtain ⟨e₀, he₀, rfl⟩ := List.mem_map.mp (List.mem_dedup.mp hmem)
  cases hm : ((projectStatusRows pid db).filter fun e => e.taskId = e₀.taskId).map EventRow.id
      |>.max? with
  | none =>
    rw [List.max?_eq_none_iff, List.map_eq_nil_iff] at hm
    have he : e₀ ∈ (projectStatusRows pid db).filter fun e => e.taskId = e₀.taskId :=
      List.mem_filter.mpr ⟨he₀, decide_eq_true rfl⟩
    rw [hm] at he
    exact absurd he List.not_mem_nil
  | some m =>
    rw [hm, Option.getD_some] at hmax
    subst hmax
    obtain ⟨hin, hle⟩ := List.max?_eq_some_iff.mp hm
    obtain ⟨e, he, hid⟩ := List.mem_map.mp hin
    obtain ⟨hjoined, htid⟩ := List.mem_filter.mp he
    refine ⟨e, hjoined, of_decide_eq_true htid, hid, fun e' he' htid' => ?_⟩
    exact hle e'.id (List.mem_map_of_mem (List.mem_filter.mpr ⟨he', decide_eq_true htid'⟩))

theorem exists_latestStatusIds {e : EventRow} (h : e ∈ projectStatusRows pid db) :
    ∃ n, (e.taskId, n) ∈ latestStatusIds pid db :=
  ⟨_, List.mem_map_of_mem (List.mem_dedup.mpr (List.mem_map_of_mem (f := fun e => e.taskId) h))⟩

/-- Events are told apart by their ids. -/
theorem event_eq_of_id {e e' : EventRow} (he : e ∈ db.event.rows) (he' : e' ∈ db.event.rows)
    (hid : e.id = e'.id) : e = e' :=
  Table.mem_unique he he' hid

theorem mem_statusRowsDesc {e : EventRow} :
    e ∈ statusRowsDesc tid db ↔ e ∈ db.event.rows ∧ e.taskId = tid ∧ e.type = "status" := by
  unfold statusRowsDesc
  rw [List.mem_insertionSort, List.mem_filter, Bool.and_eq_true, decide_eq_true_eq,
    decide_eq_true_eq]

/-- The first of the status events of a task is the newest. -/
theorem newest_of_head? {x : EventRow} (h : (statusRowsDesc tid db).head? = some x) :
    x ∈ statusRowsDesc tid db ∧ ∀ e ∈ statusRowsDesc tid db, e.id ≤ x.id := by
  obtain ⟨xs, hl⟩ := List.head?_eq_some_iff.mp h
  have hsorted : (statusRowsDesc tid db).Pairwise fun a b => b.id ≤ a.id :=
    List.pairwise_insertionSort _ _
  rw [hl] at hsorted ⊢
  refine ⟨.head _, fun e he => ?_⟩
  rcases List.mem_cons.mp he with rfl | he
  · exact le_rfl
  · exact (List.pairwise_cons.mp hsorted).1 e he

theorem latestStatus_eq (tid : TaskId) (db : Db) :
    Sinks.latestStatus tid db = ((statusRowsDesc tid db).head?.map fun e => e.payload).getD [] := by
  unfold Sinks.latestStatus statusEvents
  cases statusRowsDesc tid db with
  | nil => rfl
  | cons x xs => rfl

/-- The query has the newest status of every task of the project that has one. -/
theorem get?_latestStatusByProject {task : Task} (htask : task ∈ Store.listTasks pid db) :
    Dict.get? (latestStatusByProject pid db) task.id =
      (statusRowsDesc task.id db).head?.map fun e => e.payload := by
  obtain ⟨hrow, hpid⟩ := List.mem_filter.mp ((List.mem_insertionSort _).mp htask)
  have hjoined : ∀ e, e ∈ statusRowsDesc task.id db →
      e ∈ projectStatusRows pid db ∧ e.taskId = task.id := fun e he => by
    obtain ⟨hevent, htid, hst⟩ := mem_statusRowsDesc.mp he
    exact ⟨mem_projectStatusRows.mpr
      ⟨hevent, hst, task, hrow, htid.symm, of_decide_eq_true hpid⟩, htid⟩
  unfold latestStatusByProject
  cases hhead : (statusRowsDesc task.id db).head? with
  | none =>
    have hnil := List.head?_eq_none_iff.mp hhead
    refine get?_foldl_set_of_not_mem _ fun e he htid => ?_
    obtain ⟨e₀, he₀, hmem⟩ := List.mem_flatMap.mp he
    obtain ⟨⟨tid', n⟩, hlatest, rfl⟩ := List.mem_map.mp hmem
    obtain ⟨hin, hid⟩ := List.mem_filter.mp hlatest
    obtain ⟨e₁, he₁, -, hid₁, -⟩ := mem_latestStatusIds hin
    obtain ⟨hevent₁, hst₁, -⟩ := mem_projectStatusRows.mp he₁
    obtain rfl := event_eq_of_id hevent₁ he₀ (hid₁.trans (of_decide_eq_true hid))
    have hmem₁ := mem_statusRowsDesc.mpr ⟨hevent₁, htid, hst₁⟩
    rw [hnil] at hmem₁
    exact absurd hmem₁ List.not_mem_nil
  | some x =>
    obtain ⟨hx, hnewest⟩ := newest_of_head? hhead
    obtain ⟨hxjoined, hxtid⟩ := hjoined x hx
    have hxevent := (mem_projectStatusRows.mp hxjoined).1
    rw [← hxtid]
    refine get?_foldl_set_of_mem _ ?_ fun e he htid => ?_
    · -- the newest event of the task is the one that the subquery names
      obtain ⟨n, hin⟩ := exists_latestStatusIds hxjoined
      obtain ⟨e₁, he₁, htid₁, hid₁, hmax⟩ := mem_latestStatusIds hin
      obtain ⟨hevent₁, hst₁, -⟩ := mem_projectStatusRows.mp he₁
      have hle := hnewest e₁ (mem_statusRowsDesc.mpr ⟨hevent₁, htid₁.trans hxtid, hst₁⟩)
      have hge := hmax x hxjoined rfl
      have hid : n = x.id := by omega
      exact List.mem_flatMap.mpr ⟨x, hxevent, List.mem_map.mpr
        ⟨(x.taskId, n), List.mem_filter.mpr ⟨hin, decide_eq_true hid⟩, rfl⟩⟩
    · obtain ⟨e₀, he₀, hmem⟩ := List.mem_flatMap.mp he
      obtain ⟨⟨tid', n⟩, hlatest, rfl⟩ := List.mem_map.mp hmem
      obtain ⟨hin, hid⟩ := List.mem_filter.mp hlatest
      obtain ⟨e₁, he₁, htid₁, hid₁, hmax⟩ := mem_latestStatusIds hin
      obtain ⟨hevent₁, hst₁, -⟩ := mem_projectStatusRows.mp he₁
      obtain rfl := event_eq_of_id hevent₁ he₀ (hid₁.trans (of_decide_eq_true hid))
      have hle := hnewest e₁ (mem_statusRowsDesc.mpr ⟨hevent₁, htid.trans hxtid, hst₁⟩)
      have hge := hmax x hxjoined (htid.symm.trans htid₁)
      exact event_eq_of_id hevent₁ hxevent (by omega)

end ListingLemmas

end Store

namespace Views

open Store.ListingLemmas

theorem withoutSpec_buildTaskView (db : Db) (task : Task) (status : Option JsonObj)
    (deleted : Bool) :
    withoutSpec (buildTaskView db task status deleted true) =
      buildTaskView db task status deleted false := by
  have hpersisted : (persisted task true).filter (fun kv => kv.1 ≠ "spec") =
      persisted task false := by
    rw [persisted_eq, persisted_eq]
    simp
  have htelemetry (st : JsonObj) : (Sinks.telemetry st).filter (fun kv => kv.1 ≠ "spec") =
      Sinks.telemetry st := by
    rw [List.filter_eq_self]
    intro kv hkv
    have hkey : kv.1 ∈ telemetryKeys := by
      rw [← telemetry_keys]
      exact List.mem_map_of_mem hkv
    have hspec : ∀ k ∈ telemetryKeys, k ≠ "spec" := by decide
    exact decide_eq_true (hspec kv.1 hkey)
  have hdeleted : [("deleted", Json.bool deleted)].filter (fun kv => kv.1 ≠ "spec") =
      [("deleted", .bool deleted)] := by simp
  rw [buildTaskView_eq_append, buildTaskView_eq_append, withoutSpec, List.filter_append,
    List.filter_append, hpersisted, htelemetry, hdeleted]

/-- The list of a project is, task by task, the detail of the task without its `spec`. -/
theorem list_eq_detail (db : Db) (pid : String) :
    (∀ task, task ∈ Store.listTasks pid db ↔ task ∈ db.task.rows ∧ task.projectId = pid) ∧
    (listTasks pid db).map some =
      (Store.listTasks pid db).map fun task => (getTask task.id db).map withoutSpec := by
  have hlisted : ∀ task, task ∈ Store.listTasks pid db ↔
      task ∈ db.task.rows ∧ task.projectId = pid := fun task => by
    unfold Store.listTasks
    rw [List.mem_insertionSort, List.mem_filter, decide_eq_true_eq]
  refine ⟨hlisted, ?_⟩
  unfold listTasks
  rw [List.map_map]
  refine List.map_congr_left fun task htask => ?_
  have hrow : db.task? task.id = some task :=
    Table.get?_eq_some_iff.mpr ⟨((hlisted task).mp htask).1, rfl⟩
  unfold getTask
  rw [hrow, Option.map_some, Option.map_some, Function.comp_apply]
  rw [get?_latestStatusByProject htask, ← latestStatus_eq]
  rw [withoutSpec_buildTaskView]
  rfl

end Views

end Flotilla
