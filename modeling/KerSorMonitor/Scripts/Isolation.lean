import KerSorMonitor.Lib.Search
import KerSorMonitor.Scripts.Snapshot

/-!
# Malformed workspaces (`build_tasks_from_workspace_data` in `scripts/monitor_state.py`)

`status.json` is what a worker wrote: any JSON value. The row builder catches what goes wrong with
texts, but calls `get` on whatever is true, lets `float` overflow for a large integer, and `int`
for an infinity. One such status takes the whole table down.

Result: `isolates_iff`, which statuses the table survives. The row of a task never depends on the
data of workspaces of other tasks.
-/

namespace Scripts

open Flotilla Keyed

/-! ## What a search meets -/

/-- What `first_nested_numeric` looks at, in its order: the values of its keys, and `none` for a
container in which it may not recurse any more. -/
def met (keys : List String) : Nat → Json → List (Option Json)
  | 0, .obj _ => [none]
  | 0, .arr _ => [none]
  | depth + 1, .obj kvs =>
    keys.map (fun key => some ((JsonObj.get? kvs key).getD .null)) ++
      (kvs.map Prod.snd).flatMap (met keys depth)
  | depth + 1, .arr xs => xs.flatMap (met keys depth)
  | _, _ => []

/-- The values of `first_numeric_metric`. -/
def metAlong (data : Json) (paths : List (List String)) : List (Option Json) :=
  paths.map fun path => some (nestedMetricValue data path)

variable (py : Python)

/-- An integer that is too large for a float, or a container that is nested too deep. -/
def Unreadable : Option Json → Prop
  | none => True
  | some (.int n) => Search.Raises (py.ofInt n)
  | some (.bool b) => Search.Raises (py.ofInt (if b then 1 else 0))
  | some _ => False

/-- A value that is a metric. -/
def IsMetric : Option Json → Prop
  | none => False
  | some v => ∃ x, parseNumericMetric py v = .ok (some x)

/-- A search finds a metric before it meets something unreadable. -/
def Searchable (l : List (Option Json)) : Prop :=
  ∀ pre a post, l = pre ++ a :: post → Unreadable py a → ∃ b ∈ pre, IsMetric py b

/-- `int` of the value raises nothing but a `ValueError`. -/
def Countable (v : Json) : Prop :=
  ∀ f e, v = .float f → py.truncate f = .error e → e.cls = .valueError

/-- The members of a status. -/
def members : Json → JsonObj
  | .obj kvs => kvs
  | _ => []

/-- A status of which a row can be made, with `depth` calls left for the searches. -/
structure Readable (depth : Nat) (status : Json) : Prop where
  object : status.truthy = true → ∃ kvs, status = .obj kvs
  latency : Searchable py
    (met ["best_latency_ms", "latency_ms", "latency"] depth (.obj (members status)))
  speedup : Searchable py (metAlong (.obj (members status)) baselineSpeedupPaths ++
    met baselineSpeedupKeys depth (.obj (members status)))
  committed : Countable py (getD (members status) "solutions_committed" .null)

/-! ## The table -/

/-- The workspace of a task: the last from whose name the task is inferred. -/
def workspaceOf (taskId : String) (workspaces : List (String × WorkspaceData)) :
    Option (String × WorkspaceData) :=
  workspaces.reverse.find? fun nw => inferTaskIdFromWorkspaceName py nw.1 = taskId

/-- The status in the workspace of every task is readable. -/
def AllReadable (limits : PyJson.Limits) (tasks : Tasks)
    (workspaces : List (String × WorkspaceData)) : Prop :=
  ∀ t ∈ tasks.rows, ∀ nw, workspaceOf py t.1 workspaces = some nw →
    Readable py (limits.maxDepth + 1) nw.2.status

/-- The table has one row for each task. -/
def OneRowEach (limits : PyJson.Limits) (tasks : Tasks)
    (workspaces : List (String × WorkspaceData)) : Prop :=
  ∃ rows, buildTasksFromWorkspaceData py limits tasks workspaces = .ok rows ∧
    rows.map TaskRow.id = (sortedTasks tasks).map Prod.fst

/-- Only data of workspaces that are not of the task are changed. -/
def OthersChange (taskId : String) (before after : List (String × WorkspaceData)) : Prop :=
  List.Forall₂ (fun a b => a.1 = b.1 ∧
    (inferTaskIdFromWorkspaceName py a.1 = taskId → a.2 = b.2)) before after

/-- Both tables have one row for each task, and the row of a task is the same if only data of
other workspaces are changed. -/
def Isolates (limits : PyJson.Limits) (tasks : Tasks)
    (before after : List (String × WorkspaceData)) : Prop :=
  OneRowEach py limits tasks before ∧ OneRowEach py limits tasks after ∧
    ∀ t ∈ tasks.rows, OthersChange py t.1 before after →
      ∀ rows rows', buildTasksFromWorkspaceData py limits tasks before = .ok rows →
        buildTasksFromWorkspaceData py limits tasks after = .ok rows' →
          rows.find? (fun row => row.id = t.1) = rows'.find? fun row => row.id = t.1

namespace IsolationLemmas

variable {py} {limits : PyJson.Limits} {tasks : Tasks} {depth : Nat}
  {before after workspaces : List (String × WorkspaceData)} {taskId : String}

/-! ## Searches -/

/-- What a search does with something that it meets. -/
def probe (py : Python) : Option Json → Except PyErr (Option py.F)
  | some v => parseNumericMetric py v
  | none => .error ⟨.recursionError, "maximum recursion depth exceeded"⟩

theorem firstNestedNumeric_eq {keys : List String} {v : Json} :
    firstNestedNumeric py keys depth v = (met keys depth v).findSomeM? (probe py) := by
  induction depth generalizing v with
  | zero => cases v <;> rfl
  | succ depth ih =>
    have hrec : firstNestedNumeric py keys depth
        = fun v => (met keys depth v).findSomeM? (probe py) := funext fun v => ih
    cases v with
    | obj kvs =>
      have hkeys : (keys.map fun key => some ((JsonObj.get? kvs key).getD .null)).findSomeM?
          (probe py) = keys.findSomeM? fun key =>
            parseNumericMetric py ((JsonObj.get? kvs key).getD .null) := Search.findSomeM?_map
      rw [firstNestedNumeric, met, Search.findSomeM?_append, hkeys, Search.findSomeM?_flatMap,
        hrec]
      cases keys.findSomeM? fun key =>
        parseNumericMetric py ((JsonObj.get? kvs key).getD .null) with
      | error e => rfl
      | ok found => cases found <;> rfl
    | arr xs => rw [firstNestedNumeric, met, Search.findSomeM?_flatMap, hrec]
    | _ => rfl

theorem firstNumericMetric_eq {data : Json} {paths : List (List String)} :
    firstNumericMetric py data paths = (metAlong data paths).findSomeM? (probe py) :=
  (Search.findSomeM?_map (f := probe py) (g := fun path => some (nestedMetricValue data path))).symm

theorem statusSpeedup_eq {data : JsonObj} :
    statusSpeedup py depth data = (metAlong (.obj data) baselineSpeedupPaths ++
      met baselineSpeedupKeys depth (.obj data)).findSomeM? (probe py) := by
  rw [Search.findSomeM?_append, ← firstNumericMetric_eq, ← firstNestedNumeric_eq, statusSpeedup]
  cases firstNumericMetric py (.obj data) baselineSpeedupPaths with
  | error e => rfl
  | ok found => cases found <;> rfl

theorem raises_map_iff {α β : Type} {x : Except PyErr α} {g : α → β} :
    Search.Raises (x.map g) ↔ Search.Raises x := by
  cases x with
  | error e => exact iff_of_true ⟨e, rfl⟩ ⟨e, rfl⟩
  | ok a => exact iff_of_false (fun ⟨e, he⟩ => by cases he) fun ⟨e, he⟩ => by cases he

theorem not_raises_ok {α : Type} (a : α) : ¬ Search.Raises (Except.ok a : Except PyErr α) := by
  rintro ⟨e, he⟩
  cases he

/-- The numeric parser raises for integers that are too large, and for nothing else. -/
theorem raises_probe_iff {a : Option Json} : Search.Raises (probe py a) ↔ Unreadable py a := by
  cases a with
  | none => exact iff_of_true ⟨_, rfl⟩ trivial
  | some v =>
    cases v with
    | int n => exact raises_map_iff
    | bool b => exact raises_map_iff
    | _ => exact iff_of_false (not_raises_ok _) id

theorem searchable_iff {l : List (Option Json)} :
    Searchable py l ↔ ∃ r, l.findSomeM? (probe py) = .ok r := by
  have hmetric (a : Option Json) : IsMetric py a ↔ ∃ x, probe py a = .ok (some x) := by
    cases a with
    | none => exact iff_of_false id fun ⟨x, hx⟩ => by cases hx
    | some v => exact Iff.rfl
  rw [Search.findSomeM?_isOk_iff]
  simp only [Searchable, Search.Settles, raises_probe_iff, hmetric]

/-! ## The row -/

theorem countable_iff {v : Json} : Countable py v ↔ ∃ n, parseInt py v = .ok n := by
  cases v with
  | float f =>
    cases hf : py.truncate f with
    | ok n =>
      refine iff_of_true (fun f' e hv he => ?_) ⟨some n, ?_⟩
      · cases hv
        cases hf.symm.trans he
      · rw [parseInt, hf]
    | error e =>
      by_cases hcls : e.cls = .valueError
      · refine iff_of_true (fun f' e' hv he => ?_) ⟨none, ?_⟩
        · cases hv
          cases hf.symm.trans he
          exact hcls
        · simp only [parseInt, hf, if_pos hcls]
      · refine iff_of_false (fun h => hcls (h f e rfl hf)) ?_
        rintro ⟨n, hn⟩
        simp only [parseInt, hf, if_neg hcls] at hn
        cases hn
  | _ => exact iff_of_true (fun f e hv _ => by cases hv) ⟨_, rfl⟩

theorem statusData_eq_ok_iff {status : Json} {data : JsonObj} :
    statusData status = .ok data ↔
      (status.truthy = true → ∃ kvs, status = .obj kvs) ∧ members status = data := by
  unfold statusData
  cases status with
  | obj kvs =>
    have hdict : (if (Json.obj kvs).truthy then Except.ok kvs else .ok [] : Except PyErr JsonObj)
        = .ok kvs := by cases kvs <;> rfl
    dsimp only
    rw [hdict]
    exact ⟨fun h => ⟨fun _ => ⟨kvs, rfl⟩, Except.ok.inj h⟩, fun h => congrArg _ h.2⟩
  | _ =>
    dsimp only
    split
    case isTrue htrue =>
      refine iff_of_false (fun h => by cases h) fun h => ?_
      obtain ⟨kvs, hkvs⟩ := h.1 htrue
      cases hkvs
    case isFalse hfalse =>
      exact ⟨fun h => ⟨fun htrue => absurd htrue hfalse, Except.ok.inj h⟩,
        fun h => congrArg _ h.2⟩

theorem row_isOk_iff {task : JsonObj} {status : Json} {candidates : Nat}
    {workspace statusError : Option String} {benchmark : Option Benchmark} :
    (∃ row, normalizeTaskRow py depth taskId task status candidates workspace statusError
      benchmark = .ok row) ↔ Readable py depth status := by
  unfold normalizeTaskRow
  simp only [Search.bind_isOk_iff, statusData_eq_ok_iff]
  constructor
  · rintro ⟨data, ⟨hobj, rfl⟩, _, hlatency, _, hspeedup, _, hcommitted, _⟩
    rw [firstNestedNumeric_eq] at hlatency
    rw [statusSpeedup_eq] at hspeedup
    exact ⟨hobj, searchable_iff.mpr ⟨_, hlatency⟩, searchable_iff.mpr ⟨_, hspeedup⟩,
      countable_iff.mpr ⟨_, hcommitted⟩⟩
  · intro h
    obtain ⟨latency, hlatency⟩ := searchable_iff.mp h.latency
    obtain ⟨speedup, hspeedup⟩ := searchable_iff.mp h.speedup
    obtain ⟨committed, hcommitted⟩ := countable_iff.mp h.committed
    rw [← firstNestedNumeric_eq] at hlatency
    rw [← statusSpeedup_eq] at hspeedup
    exact ⟨_, ⟨h.object, rfl⟩, _, hlatency, _, hspeedup, _, hcommitted, _, rfl⟩

theorem id_of_ok {task : JsonObj} {status : Json} {candidates : Nat}
    {workspace statusError : Option String} {benchmark : Option Benchmark} {row : TaskRow py.F}
    (h : normalizeTaskRow py depth taskId task status candidates workspace statusError benchmark
      = .ok row) : row.id = taskId := by
  unfold normalizeTaskRow at h
  simp only [bind, Except.bind] at h
  repeat' split at h
  all_goals first
    | (cases h; rfl)
    | cases h

theorem get?_workspaceByTask_eq :
    Dict.get? (workspaceByTask py workspaces) taskId = workspaceOf py taskId workspaces := by
  refine (Dict.get?_foldl_set (fun nw : String × WorkspaceData =>
    inferTaskIdFromWorkspaceName py nw.1) (fun nw => nw) _ _ _).trans ?_
  rw [Dict.get?_empty, Option.or_none, Option.map_id']
  rfl

theorem id_of_remoteRow {task : JsonObj} {row : TaskRow py.F}
    (h : remoteRow py depth (workspaceByTask py workspaces) taskId task = .ok row) :
    row.id = taskId := by
  unfold remoteRow at h
  split at h <;> exact id_of_ok h

theorem remoteRow_isOk_iff {task : JsonObj} :
    (∃ row, remoteRow py (depth + 1) (workspaceByTask py workspaces) taskId task = .ok row) ↔
      ∀ nw, workspaceOf py taskId workspaces = some nw → Readable py (depth + 1) nw.2.status := by
  rw [remoteRow, get?_workspaceByTask_eq]
  cases hw : workspaceOf py taskId workspaces with
  | none => exact iff_of_true SnapshotLemmas.normalizeTaskRow_null fun nw h => by cases h
  | some nw =>
    refine row_isOk_iff.trans ⟨fun h nw' hnw' => ?_, fun h => h nw rfl⟩
    cases hnw'
    exact h

/-! ## The table -/

theorem mem_sortedTasks {t : String × JsonObj} : t ∈ sortedTasks tasks ↔ t ∈ tasks.rows :=
  List.mem_insertionSort _

/-- What a table says: each row is the row of the task in its place. -/
theorem build_eq_ok_iff {rows : List (TaskRow py.F)} :
    buildTasksFromWorkspaceData py limits tasks workspaces = .ok rows ↔
      List.Forall₂ (fun t row => remoteRow py (limits.maxDepth + 1) (workspaceByTask py workspaces)
        t.1 t.2 = .ok row) (sortedTasks tasks) rows :=
  Search.mapM_eq_ok_iff

theorem ids_of_build {rows : List (TaskRow py.F)}
    (h : buildTasksFromWorkspaceData py limits tasks workspaces = .ok rows) :
    rows.map TaskRow.id = (sortedTasks tasks).map Prod.fst := by
  have hids : List.Forall₂ (fun t row => t.1 = TaskRow.id row) (sortedTasks tasks) rows :=
    (build_eq_ok_iff.mp h).imp fun t row hrow => (id_of_remoteRow hrow).symm
  rw [eq_comm, ← List.forall₂_eq_eq_eq, List.forall₂_map_left_iff, List.forall₂_map_right_iff]
  exact hids

theorem oneRowEach_iff :
    OneRowEach py limits tasks workspaces ↔ AllReadable py limits tasks workspaces := by
  have hbuild : OneRowEach py limits tasks workspaces ↔
      ∃ rows, buildTasksFromWorkspaceData py limits tasks workspaces = .ok rows :=
    ⟨fun ⟨rows, hrows, _⟩ => ⟨rows, hrows⟩, fun ⟨rows, hrows⟩ => ⟨rows, hrows, ids_of_build hrows⟩⟩
  rw [hbuild, buildTasksFromWorkspaceData, Search.mapM_isOk_iff]
  simp only [mem_sortedTasks, remoteRow_isOk_iff]
  rfl

/-- Which workspace is the task's, and what is in it, does not depend on the others. -/
theorem workspaceOf_of_othersChange (h : OthersChange py taskId before after) :
    workspaceOf py taskId before = workspaceOf py taskId after := by
  have hrev := List.forall₂_reverse_iff.mpr h
  rw [workspaceOf, workspaceOf]
  generalize before.reverse = l₁, after.reverse = l₂ at hrev
  induction hrev with
  | nil => rfl
  | @cons a b l₁ l₂ hab _ ih =>
    obtain ⟨hname, hdata⟩ := hab
    rw [List.find?_cons, List.find?_cons, ih, ← hname]
    by_cases htask : inferTaskIdFromWorkspaceName py a.1 = taskId
    · rw [Prod.ext hname (hdata htask)]
    · rw [decide_eq_false htask]

/-- Rows that are made of the same tasks, and alike for one of them, agree on that one. -/
theorem find?_eq_of_forall₂ {R R' : String × JsonObj → TaskRow py.F → Prop}
    {l : List (String × JsonObj)} {rows rows' : List (TaskRow py.F)} (h : List.Forall₂ R l rows)
    (h' : List.Forall₂ R' l rows') (hid : ∀ t row, R t row → row.id = t.1)
    (hid' : ∀ t row, R' t row → row.id = t.1)
    (hsame : ∀ t row row', t.1 = taskId → R t row → R' t row' → row = row') :
    rows.find? (fun row => row.id = taskId) = rows'.find? fun row => row.id = taskId := by
  induction h generalizing rows' with
  | nil =>
    cases h'
    rfl
  | @cons t row l rows hrow _ ih =>
    cases h' with
    | @cons _ row' _ rows' hrow' hrest =>
      rw [List.find?_cons, List.find?_cons, hid t row hrow, hid' t row' hrow', ih hrest]
      by_cases htask : t.1 = taskId
      · rw [hsame t row row' htask hrow hrow']
      · rw [decide_eq_false htask]

end IsolationLemmas

open IsolationLemmas

/-- The tables of two collections that differ only in workspaces of other tasks are there and
agree on a task, exactly if no status that belongs to a task is malformed: each is an object or
false, its searches find a metric before an integer that is too large or a container that is
nested too deep, and its number of solutions is not infinite. -/
theorem isolates_iff (py : Python) (limits : PyJson.Limits) (tasks : Tasks)
    (before after : List (String × WorkspaceData)) :
    Isolates py limits tasks before after ↔
      AllReadable py limits tasks before ∧ AllReadable py limits tasks after := by
  constructor
  · rintro ⟨hbefore, hafter, -⟩
    exact ⟨oneRowEach_iff.mp hbefore, oneRowEach_iff.mp hafter⟩
  · rintro ⟨hbefore, hafter⟩
    refine ⟨oneRowEach_iff.mpr hbefore, oneRowEach_iff.mpr hafter, ?_⟩
    intro t _ hothers rows rows' hrows hrows'
    refine find?_eq_of_forall₂ (build_eq_ok_iff.mp hrows) (build_eq_ok_iff.mp hrows')
      (fun t row h => id_of_remoteRow h) (fun t row h => id_of_remoteRow h) ?_
    rintro u row row' hu hrow hrow'
    -- the builder looks up the same workspace in both
    rw [remoteRow, get?_workspaceByTask_eq, hu, workspaceOf_of_othersChange hothers,
      ← get?_workspaceByTask_eq] at hrow
    rw [remoteRow, hu, hrow] at hrow'
    exact Except.ok.inj hrow'

/-- A workspace of `FI-001` with this status, and one of `FI-002` with the status `{}`. -/
def withStatus (status : Json) : List (String × WorkspaceData) :=
  [("FI-001__a", ⟨status, none, 0, ⟨[], 0⟩⟩), ("FI-002__b", ⟨.obj [], none, 0, ⟨[], 0⟩⟩)]

def twoTasks : Tasks := ⟨[("FI-001", []), ("FI-002", [])], by decide⟩

/-- A status that is a list takes the table down, and so does an infinite number of solutions,
though the other workspace is not touched. -/
theorem malformed_status_takes_table :
    (OneRowEach asciiPython ⟨4300, 100⟩ twoTasks (withStatus (.obj [])) ∧
        OthersChange asciiPython "FI-002" (withStatus (.obj [])) (withStatus (.arr [.int 1])) ∧
        ¬ Isolates asciiPython ⟨4300, 100⟩ twoTasks (withStatus (.obj []))
          (withStatus (.arr [.int 1]))) ∧
      ¬ Isolates asciiPython ⟨4300, 100⟩ twoTasks (withStatus (.obj []))
        (withStatus (.obj [("solutions_committed", .float (.inf false))])) := by
  have hfails {workspaces : List (String × WorkspaceData)}
      (h : (buildTasksFromWorkspaceData asciiPython ⟨4300, 100⟩ twoTasks workspaces).toOption
        |>.isNone) :
      ¬ Isolates asciiPython ⟨4300, 100⟩ twoTasks (withStatus (.obj [])) workspaces := by
    rintro ⟨-, ⟨rows, hrows, -⟩, -⟩
    rw [hrows] at h
    cases h
  refine ⟨⟨?_, ?_, hfails (by decide)⟩, hfails (by decide)⟩
  · have hids : (buildTasksFromWorkspaceData asciiPython ⟨4300, 100⟩ twoTasks
        (withStatus (.obj []))).map (fun rows => rows.map TaskRow.id)
          = .ok ["FI-001", "FI-002"] := by decide
    cases hrows : buildTasksFromWorkspaceData asciiPython ⟨4300, 100⟩ twoTasks
        (withStatus (.obj [])) with
    | error e =>
      rw [hrows] at hids
      cases hids
    | ok rows => exact ⟨rows, hrows, ids_of_build hrows⟩
  · refine .cons ⟨rfl, fun h => absurd h (by decide)⟩ (.cons ⟨rfl, fun _ => rfl⟩ .nil)

end Scripts
