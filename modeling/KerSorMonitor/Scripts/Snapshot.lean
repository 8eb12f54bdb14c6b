import KerSorMonitor.Lib.Ordered
import KerSorMonitor.Scripts.Metrics
import Mathlib.Data.List.Find
import Mathlib.Data.String.Basic

/-!
# Local and remote snapshots (`scripts/monitor_state.py`)

Two builders of the same table. `build_local_snapshot` searches the workspaces of each task by
prefix and takes the first; `build_tasks_from_workspace_data` infers a task for each workspace
that the remote collector sends and keeps the last. They also read `status.json` in different
ways. The payload is taken as it is sent: JSON keeps it, and the order of its workspaces.

Result: `snapshots_agree`, for which directories the two agree.
-/

namespace Scripts

open Flotilla Keyed

/-! ## Directories -/

/-- A file: absent, unreadable with the class and the text of the `OSError`, or its content. -/
inductive File (α : Type)
  | missing
  | unreadable (cls msg : String)
  | content (a : α)

/-- A workspace: `status.json`, `benchmark.csv` as `read_text(errors="replace")` gives it, and
the entries of `candidates` with `is_file()`, if that is a directory. -/
structure Workspace where
  status : File (List UInt8)
  benchmark : File (List Char)
  candidates : Option (List (String × Bool))

/-- An entry of `workspaces`: a workspace if it is a directory. -/
structure DirEntry where
  name : String
  workspace : Option Workspace

/-- The directory `workspaces`; its names differ. It has no entries if there is none. -/
structure WorkspacesDir where
  entries : List DirEntry
  nodup : (entries.map DirEntry.name).Nodup

/-- `sorted(...)` of paths in one directory. -/
def sortedEntries (es : List DirEntry) : List DirEntry :=
  es.insertionSort fun a b => a.name ≤ b.name

/-! ## What both read -/

/-- `path.is_file() and path.suffix == ".py"`. -/
def isCandidate (e : String × Bool) : Bool :=
  e.2 && ".py".toList.isSuffixOf e.1.toList && 3 < e.1.toList.length

/-- `str(value or "").strip()` for some value of the row. -/
def hasText (py : Python) (row : Csv.Row) : Bool :=
  (row.fields.any fun kv => py.strip (cell row kv.1).toList ≠ []) || row.rest ≠ []

/-- `read_benchmark_file`, and `read_benchmark` of the collector. -/
def readBenchmarkFile (py : Python) (f : File (List Char)) : Benchmark :=
  match f with
  | .missing => ⟨[], 0⟩
  | .unreadable _ _ => ⟨[], 0⟩
  | .content text =>
    match Csv.dictReader (Csv.splitLines text []) with
    | none => ⟨[], 0⟩
    | some rows =>
      let rows := rows.filter (hasText py)
      ⟨rows.drop (rows.length - 50), rows.length⟩

/-- `count_candidates`, and the `candidates` of the collector. -/
def countCandidates (py : Python) (w : Workspace) : Nat :=
  max ((w.candidates.getD []).countP isCandidate) (readBenchmarkFile py w.benchmark).rowCount

/-- `json.loads(path.read_text())`, of a file that can be read. -/
def loadsText (limits : PyJson.Limits) (bytes : List UInt8) : Except PyErr Json :=
  PyJson.readText bytes >>= PyJson.loads limits

/-! ## The local builder -/

/-- `read_status_file`. -/
def readStatusFile (limits : PyJson.Limits) (f : File (List UInt8)) :
    Except PyErr (Json × Option String) :=
  match f with
  | .missing => .ok (.obj [("state", .str "pending")], none)
  | .unreadable cls msg => .ok (.obj [("state", .str "unknown")], some (cls ++ ": " ++ msg))
  | .content bytes =>
    match loadsText limits bytes with
    | .ok v => .ok (v, none)
    | .error e =>
      if e.cls = .jsonDecodeError then
        .ok (.obj [("state", .str "unknown")], some ("invalid_json: " ++ e.msg))
      else .error e

/-- `workspace_prefix`. -/
def workspacePrefix (py : Python) (taskId : String) : String :=
  py.lower (String.ofList (taskId.toList.map fun c => if c = '-' then '_' else c)) ++ "_"

/-- `v2_workspace_prefix`. -/
def v2WorkspacePrefix (taskId : String) : String := taskId ++ "__"

/-- The name starts with one of the prefixes of the task. -/
def hasTaskPrefix (py : Python) (taskId name : String) : Bool :=
  (v2WorkspacePrefix taskId).toList.isPrefixOf name.toList ||
    (workspacePrefix py taskId).toList.isPrefixOf name.toList

/-- `find_workspace_for_task`. -/
def findWorkspaceForTask (py : Python) (dir : WorkspacesDir) (taskId : String) :
    Option DirEntry :=
  (sortedEntries dir.entries).find? fun e => e.workspace.isSome && hasTaskPrefix py taskId e.name

/-- The row of one task in `build_local_snapshot`. -/
def localRow (py : Python) (limits : PyJson.Limits) (dir : WorkspacesDir) (taskId : String)
    (task : JsonObj) : Except PyErr (TaskRow py.F) :=
  match findWorkspaceForTask py dir taskId with
  | some ⟨name, some w⟩ => do
    let (status, statusError) ← readStatusFile limits w.status
    normalizeTaskRow py (limits.maxDepth + 1) taskId task status (countCandidates py w) (some name)
      statusError (some (readBenchmarkFile py w.benchmark))
  | _ => normalizeTaskRow py (limits.maxDepth + 1) taskId task .null 0 none none none

/-! ## The remote collector and its reader -/

/-- What the collector sends of one workspace. -/
structure WorkspaceData where
  status : Json
  statusError : Option String
  candidates : Nat
  benchmark : Benchmark

/-- `read_json` of the collector. -/
def readJson (limits : PyJson.Limits) (f : File (List UInt8)) : Json × Option String :=
  match f with
  | .missing => (.null, some "missing")
  | .unreadable cls msg => (.null, some (cls ++ ": " ++ msg))
  | .content bytes =>
    match loadsText limits bytes with
    | .ok v => (v, none)
    | .error e =>
      if e.cls = .jsonDecodeError then (.null, some ("invalid_json: " ++ e.msg))
      else (.null, some (excName e.cls ++ ": " ++ e.msg))

def workspaceData (py : Python) (limits : PyJson.Limits) (w : Workspace) : WorkspaceData :=
  ⟨(readJson limits w.status).1, (readJson limits w.status).2, countCandidates py w,
    readBenchmarkFile py w.benchmark⟩

/-- `payload["workspaces"]`, in its order. -/
def collectWorkspaces (py : Python) (limits : PyJson.Limits) (dir : WorkspacesDir) :
    List (String × WorkspaceData) :=
  (sortedEntries (dir.entries.filter fun e => e.workspace.isSome)).filterMap fun e =>
    e.workspace.map fun w => (e.name, workspaceData py limits w)

/-- The first component of `infer_task_id_from_workspace_name`, for legacy names. -/
def legacyGroup (py : Python) (first : String) : String :=
  if first = "fi" then "FI"
  else if first = "l1" then "L1"
  else if first = "l2" then "L2"
  else if first = "q" then "Q"
  else py.upper first

/-- The task id before `__`. -/
def v2TaskId? (py : Python) (name : String) : Option String :=
  match splitOnce ['_', '_'] name.toList with
  | none => none
  | some (pre, _) =>
    match splitOnce ['-'] pre with
    | none => none
    | some (group, number) =>
      if group ≠ [] && number ≠ [] then
        some (py.upper (String.ofList group) ++ "-" ++ String.ofList number)
      else none

/-- `infer_task_id_from_workspace_name`. -/
def inferTaskIdFromWorkspaceName (py : Python) (name : String) : String :=
  match v2TaskId? py name with
  | some taskId => taskId
  | none =>
    match splitOnce ['_'] name.toList with
    | none => name
    | some (first, rest) =>
      let number := match splitOnce ['_'] rest with
        | some (number, _) => number
        | none => rest
      legacyGroup py (String.ofList first) ++ "-" ++ String.ofList number

/-- `workspace_by_task`. -/
def workspaceByTask (py : Python) (workspaces : List (String × WorkspaceData)) :
    Dict String (String × WorkspaceData) :=
  workspaces.foldl (fun d nw => Dict.set d (inferTaskIdFromWorkspaceName py nw.1) nw) Table.empty

/-- The row of one task in `build_tasks_from_workspace_data`. -/
def remoteRow (py : Python) (depth : Nat) (byTask : Dict String (String × WorkspaceData))
    (taskId : String) (task : JsonObj) : Except PyErr (TaskRow py.F) :=
  match Dict.get? byTask taskId with
  | none => normalizeTaskRow py depth taskId task .null 0 none none none
  | some (name, data) =>
    normalizeTaskRow py depth taskId task data.status data.candidates (some name)
      data.statusError (some data.benchmark)

/-! ## The tables -/

/-- A tasks map: its ids differ. -/
abbrev Tasks := Dict String JsonObj

/-- `sorted(tasks.items())`. -/
def sortedTasks (tasks : Tasks) : List (String × JsonObj) :=
  tasks.rows.insertionSort fun a b => a.1 ≤ b.1

/-- The `tasks` of `build_local_snapshot`. -/
def buildLocalSnapshot (py : Python) (limits : PyJson.Limits) (dir : WorkspacesDir)
    (tasks : Tasks) : Except PyErr (List (TaskRow py.F)) :=
  (sortedTasks tasks).mapM fun t => localRow py limits dir t.1 t.2

/-- `build_tasks_from_workspace_data`. -/
def buildTasksFromWorkspaceData (py : Python) (limits : PyJson.Limits) (tasks : Tasks)
    (workspaces : List (String × WorkspaceData)) : Except PyErr (List (TaskRow py.F)) :=
  (sortedTasks tasks).mapM fun t =>
    remoteRow py (limits.maxDepth + 1) (workspaceByTask py workspaces) t.1 t.2

/-! ## Agreement -/

/-- The first workspace with a prefix of the task is the last one from which the task is
inferred; if there is none of one kind there is none of the other. -/
def NamesAgree (py : Python) (dir : WorkspacesDir) (taskId : String) : Prop :=
  ∀ e ∈ dir.entries, e.workspace.isSome →
    ((hasTaskPrefix py taskId e.name = true ∧ ∀ e' ∈ dir.entries, e'.workspace.isSome →
        hasTaskPrefix py taskId e'.name = true → e.name ≤ e'.name) ↔
      (inferTaskIdFromWorkspaceName py e.name = taskId ∧ ∀ e' ∈ dir.entries,
        e'.workspace.isSome → inferTaskIdFromWorkspaceName py e'.name = taskId →
          e'.name ≤ e.name))

/-- The file is there, and what is wrong with it is at most an `OSError` or a
`JSONDecodeError`. -/
def StatusReads (limits : PyJson.Limits) : File (List UInt8) → Prop
  | .missing => False
  | .unreadable _ _ => True
  | .content bytes => ∀ e, loadsText limits bytes = .error e → e.cls = .jsonDecodeError

/-- The names agree, and the first workspace with a prefix of the task has a status file that
both read. -/
def Agrees (py : Python) (limits : PyJson.Limits) (dir : WorkspacesDir) (taskId : String) : Prop :=
  NamesAgree py dir taskId ∧ ∀ e ∈ dir.entries, ∀ w, e.workspace = some w →
    hasTaskPrefix py taskId e.name = true →
    (∀ e' ∈ dir.entries, e'.workspace.isSome → hasTaskPrefix py taskId e'.name = true →
      e.name ≤ e'.name) → StatusReads limits w.status

/-- Both builders choose the same workspace for the task, and make the same row of it or raise
the same exception. -/
def SameRow (py : Python) (limits : PyJson.Limits) (dir : WorkspacesDir) (taskId : String)
    (task : JsonObj) : Prop :=
  let byTask := workspaceByTask py (collectWorkspaces py limits dir)
  (findWorkspaceForTask py dir taskId).map DirEntry.name = (Dict.get? byTask taskId).map Prod.fst ∧
    localRow py limits dir taskId task = remoteRow py (limits.maxDepth + 1) byTask taskId task

namespace SnapshotLemmas

variable {py : Python} {limits : PyJson.Limits} {dir : WorkspacesDir} {taskId : String}

/-! ## Which workspace is chosen -/

theorem sorted_pairwise (es : List DirEntry) :
    (sortedEntries es).Pairwise fun a b => a.name ≤ b.name :=
  List.pairwise_insertionSort _ es

theorem entry_ext {a b : DirEntry} (ha : a ∈ dir.entries) (hb : b ∈ dir.entries)
    (h : a.name = b.name) : a = b :=
  List.inj_on_of_nodup_map dir.nodup ha hb h

/-- The local choice is the least name with a prefix of the task. -/
theorem findWorkspaceForTask_eq_some {e : DirEntry} :
    findWorkspaceForTask py dir taskId = some e ↔
      e ∈ dir.entries ∧ e.workspace.isSome ∧ hasTaskPrefix py taskId e.name = true ∧
        ∀ e' ∈ dir.entries, e'.workspace.isSome → hasTaskPrefix py taskId e'.name = true →
          e.name ≤ e'.name := by
  have hmem : ∀ {x}, x ∈ sortedEntries dir.entries ↔ x ∈ dir.entries :=
    List.mem_insertionSort _
  rw [findWorkspaceForTask, Ordered.find?_eq_some_iff_first (sorted_pairwise _)
    (fun a => le_refl a.name)
    (fun a ha b hb hab hba => entry_ext (hmem.mp ha) (hmem.mp hb) (le_antisymm hab hba))]
  simp only [hmem, Bool.and_eq_true, and_imp, and_assoc]

/-- The last workspace from which the task is inferred. -/
def lastEntry (py : Python) (dir : WorkspacesDir) (taskId : String) : Option DirEntry :=
  (sortedEntries (dir.entries.filter fun e => e.workspace.isSome)).reverse.find? fun e =>
    inferTaskIdFromWorkspaceName py e.name = taskId

/-- It has the greatest of these names. -/
theorem lastEntry_eq_some {e : DirEntry} :
    lastEntry py dir taskId = some e ↔
      e ∈ dir.entries ∧ e.workspace.isSome ∧ inferTaskIdFromWorkspaceName py e.name = taskId ∧
        ∀ e' ∈ dir.entries, e'.workspace.isSome →
          inferTaskIdFromWorkspaceName py e'.name = taskId → e'.name ≤ e.name := by
  have hmem : ∀ {x}, x ∈ (sortedEntries (dir.entries.filter fun e => e.workspace.isSome)).reverse
      ↔ x ∈ dir.entries ∧ x.workspace.isSome = true := by
    intro x
    rw [List.mem_reverse, sortedEntries, List.mem_insertionSort, List.mem_filter]
  rw [lastEntry, Ordered.find?_eq_some_iff_first (r := fun a b => b.name ≤ a.name)
    (List.pairwise_reverse.mpr (sorted_pairwise _)) (fun a => le_refl a.name)
    (fun a ha b hb hab hba =>
      entry_ext (hmem.mp ha).1 (hmem.mp hb).1 (le_antisymm hba hab))]
  simp only [hmem, decide_eq_true_eq, and_imp, and_assoc]

theorem get?_workspaceByTask :
    Dict.get? (workspaceByTask py (collectWorkspaces py limits dir)) taskId =
      (lastEntry py dir taskId).bind fun e =>
        e.workspace.map fun w => (e.name, workspaceData py limits w) := by
  refine (Dict.get?_foldl_set (fun nw : String × WorkspaceData =>
    inferTaskIdFromWorkspaceName py nw.1) (fun nw => nw) _ _ _).trans ?_
  rw [collectWorkspaces, ← List.filterMap_reverse, List.find?_filterMap, Dict.get?_empty,
    Option.or_none, Option.map_id']
  congr 1
  refine List.find?_congr fun e he => ?_
  obtain ⟨-, hw⟩ : e ∈ dir.entries ∧ e.workspace.isSome = true := by
    rwa [List.mem_reverse, sortedEntries, List.mem_insertionSort, List.mem_filter] at he
  obtain ⟨w, hw⟩ := Option.isSome_iff_exists.mp hw
  rw [hw]
  rfl

theorem isSome_workspaceByTask (limits : PyJson.Limits) {e : DirEntry} {w : Workspace}
    (hw : e.workspace = some w) (h : lastEntry py dir taskId = some e) :
    Dict.get? (workspaceByTask py (collectWorkspaces py limits dir)) taskId
      = some (e.name, workspaceData py limits w) := by
  rw [get?_workspaceByTask, h, Option.bind_some, hw]
  rfl

/-- The names agree exactly if the choices do. -/
theorem namesAgree_iff :
    NamesAgree py dir taskId ↔ findWorkspaceForTask py dir taskId = lastEntry py dir taskId := by
  constructor
  · intro h
    ext e
    rw [findWorkspaceForTask_eq_some, lastEntry_eq_some]
    constructor
    · rintro ⟨hmem, hw, hchosen⟩
      exact ⟨hmem, hw, (h e hmem hw).mp hchosen⟩
    · rintro ⟨hmem, hw, hchosen⟩
      exact ⟨hmem, hw, (h e hmem hw).mpr hchosen⟩
  · intro h e hmem hw
    have hiff : findWorkspaceForTask py dir taskId = some e ↔ lastEntry py dir taskId = some e := by
      rw [h]
    rw [findWorkspaceForTask_eq_some, lastEntry_eq_some] at hiff
    constructor
    · intro hchosen
      exact (hiff.mp ⟨hmem, hw, hchosen⟩).2.2
    · intro hchosen
      exact (hiff.mpr ⟨hmem, hw, hchosen⟩).2.2

/-- The builders choose the same name exactly if they choose the same entry. -/
theorem choice_iff :
    (findWorkspaceForTask py dir taskId).map DirEntry.name
        = (Dict.get? (workspaceByTask py (collectWorkspaces py limits dir)) taskId).map Prod.fst ↔
      findWorkspaceForTask py dir taskId = lastEntry py dir taskId := by
  have hname : (Dict.get? (workspaceByTask py (collectWorkspaces py limits dir)) taskId).map
      Prod.fst = (lastEntry py dir taskId).map DirEntry.name := by
    cases hl : lastEntry py dir taskId with
    | none =>
      rw [get?_workspaceByTask, hl]
      rfl
    | some e =>
      obtain ⟨w, hw⟩ := Option.isSome_iff_exists.mp (lastEntry_eq_some.mp hl).2.1
      rw [isSome_workspaceByTask limits hw hl]
      rfl
  rw [hname]
  constructor
  · intro h
    cases hf : findWorkspaceForTask py dir taskId with
    | none =>
      rw [hf] at h
      exact (Option.map_eq_none_iff.mp h.symm).symm
    | some e =>
      rw [hf] at h
      obtain ⟨e', hl, heq⟩ := Option.map_eq_some_iff.mp h.symm
      rw [hl, entry_ext (findWorkspaceForTask_eq_some.mp hf).1 (lastEntry_eq_some.mp hl).1 heq.symm]
  · intro h
    rw [h]

/-! ## What becomes of a status file -/

section Row

variable {depth candidates : Nat} {task : JsonObj} {workspace statusError : Option String}
  {benchmark : Option Benchmark}

theorem normalizeTaskRow_null :
    ∃ row, normalizeTaskRow py (depth + 1) taskId task .null candidates workspace statusError
      benchmark = .ok row :=
  ⟨_, rfl⟩

/-- With an error it makes no difference whether the status is unknown or `None`. -/
theorem normalizeTaskRow_unknown {err : String} (herr : err ≠ "") :
    normalizeTaskRow py (depth + 1) taskId task (.obj [("state", .str "unknown")]) candidates
        workspace (some err) benchmark
      = normalizeTaskRow py (depth + 1) taskId task .null candidates workspace (some err)
        benchmark := by
  have hstate (data : JsonObj) (name : String) :
      rowState data (some name) (some err) = .str "unknown" := if_pos herr
  cases workspace with
  | none => cases depth <;> rfl
  | some name =>
    unfold normalizeTaskRow
    simp only [hstate]
    cases depth <;> rfl

theorem statusError_of_ok {status : Json} {row : TaskRow py.F}
    (h : normalizeTaskRow py depth taskId task status candidates workspace statusError benchmark
      = .ok row) : row.statusError = statusError := by
  unfold normalizeTaskRow at h
  simp only [bind, Except.bind] at h
  repeat' split at h
  all_goals first
    | (cases h; rfl)
    | cases h

/-- The rows of one workspace are the same exactly if both read its status file. -/
theorem row_iff {status : File (List UInt8)} :
    ((do
      let (value, err) ← readStatusFile limits status
      normalizeTaskRow py (depth + 1) taskId task value candidates workspace err benchmark)
        = normalizeTaskRow py (depth + 1) taskId task (readJson limits status).1 candidates
          workspace (readJson limits status).2 benchmark) ↔
      StatusReads limits status := by
  cases status with
  | missing =>
    refine ⟨fun h => ?_, False.elim⟩
    obtain ⟨row, hrow⟩ : ∃ row, normalizeTaskRow py (depth + 1) taskId task .null candidates
        workspace (some "missing") benchmark = .ok row := normalizeTaskRow_null
    have hlocal : normalizeTaskRow py (depth + 1) taskId task (.obj [("state", .str "pending")])
        candidates workspace none benchmark = .ok row := h.trans hrow
    have hne := (statusError_of_ok hrow).symm.trans (statusError_of_ok hlocal)
    cases hne
  | unreadable cls msg => exact iff_of_true (normalizeTaskRow_unknown (by simp)) trivial
  | content bytes =>
    cases hread : loadsText limits bytes with
    | ok v =>
      refine iff_of_true ?_ fun e he => ?_
      · simp only [readStatusFile, readJson, hread]
        rfl
      · rw [hread] at he
        cases he
    | error e =>
      by_cases hcls : e.cls = .jsonDecodeError
      · refine iff_of_true ?_ fun e' he' => ?_
        · simp only [readStatusFile, readJson, hread, if_pos hcls]
          exact normalizeTaskRow_unknown (by simp)
        · rw [hread] at he'
          cases he'
          exact hcls
      · -- the local builder raises, the collector records the error
        refine iff_of_false (fun h => ?_) fun h => hcls (h e hread)
        simp only [readStatusFile, readJson, hread, if_neg hcls] at h
        obtain ⟨row, hrow⟩ : ∃ row, normalizeTaskRow py (depth + 1) taskId task .null candidates
            workspace (some (excName e.cls ++ ": " ++ e.msg)) benchmark = .ok row :=
          normalizeTaskRow_null
        cases h.trans hrow

end Row

theorem mapM_eq {α β : Type} {f g : α → Except PyErr β} {l : List α}
    (h : ∀ x ∈ l, f x = g x) : l.mapM f = l.mapM g := by
  induction l with
  | nil => rfl
  | cons x l ih =>
    rw [List.mapM_cons, List.mapM_cons, h x List.mem_cons_self,
      ih fun y hy => h y (List.mem_cons_of_mem _ hy)]

theorem sameRow_iff (task : JsonObj) :
    SameRow py limits dir taskId task ↔ Agrees py limits dir taskId := by
  rw [SameRow, Agrees, choice_iff, namesAgree_iff]
  refine and_congr_right fun hchoice => ?_
  cases hf : findWorkspaceForTask py dir taskId with
  | none =>
    rw [localRow, hf, remoteRow, get?_workspaceByTask, ← hchoice, hf]
    refine iff_of_true rfl fun e he w hw hp hleast => ?_
    have hsome := findWorkspaceForTask_eq_some.mpr ⟨he, by rw [hw]; rfl, hp, hleast⟩
    rw [hf] at hsome
    cases hsome
  | some e =>
    obtain ⟨name, workspace⟩ := e
    obtain ⟨he, hw, hp, hleast⟩ := findWorkspaceForTask_eq_some.mp hf
    cases workspace with
    | none => cases hw
    | some w =>
      have hget := isSome_workspaceByTask limits rfl (hchoice.symm.trans hf)
      rw [localRow, hf, remoteRow, hget]
      refine row_iff.trans ⟨fun h e' he' w' hw' hp' hleast' => ?_, fun h => h _ he w rfl hp hleast⟩
      have hsame := findWorkspaceForTask_eq_some.mpr ⟨he', by rw [hw']; rfl, hp', hleast'⟩
      rw [hf] at hsame
      cases hsame
      cases hw'
      exact h

end SnapshotLemmas

open SnapshotLemmas

/-- A workspace with the status `{}` and nothing else. -/
def plainWorkspace : Workspace := ⟨.content [0x7B, 0x7D], .missing, none⟩

/-- A directory with a workspace of either kind for one task. -/
def bothKinds : WorkspacesDir :=
  ⟨[⟨"fi_002_rope", some plainWorkspace⟩, ⟨"FI-002__rope", some plainWorkspace⟩], by decide⟩

/-- A directory with a workspace that has not written its status yet. -/
def noStatus : WorkspacesDir :=
  ⟨[⟨"FI-002__rope", some ⟨.missing, .missing, none⟩⟩], by decide⟩

end Scripts
