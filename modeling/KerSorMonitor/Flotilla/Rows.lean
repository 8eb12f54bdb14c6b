import KerSorMonitor.Lib.Sql
import KerSorMonitor.Flotilla.PyDumps
import KerSorMonitor.Flotilla.Store

/-!
# Rows in SQLite (`flotilla/store.py`)

How the records are written into the columns of their tables and read back: the column lists of the
`INSERT` statements, `_task_values`, `_task_from_row` and their siblings. Dictionaries are stored as
JSON text. The columns that the records of `Models` do not have are in records of their own.

Results:
1. `WorkerId.ofText?_text`: the text of a worker id determines it.
2. `json_dumps`: a dictionary is read back from its text.
3. `taskRow_insert`, ...: a row that is inserted is that of its record.
4. `taskFromRow_eq`, ...: the row of a record is read back as the record.
-/

namespace Flotilla

open Sql

/-! ## Fields -/

/-- The worker id with a text. -/
def WorkerId.ofText? (s : String) : Option WorkerId :=
  let digits := s.toList.reverse.takeWhile PyJson.isDigit
  match s.toList.reverse.dropWhile PyJson.isDigit with
  | '_' :: front =>
    match front.reverse with
    | 'w' :: '_' :: task => some ⟨String.ofList task, PyJson.digitsValue digits.reverse⟩
    | _ => none
  | _ => none

namespace Rows

/-- `pydantic.ValidationError`. -/
def validationError (msg : String) : PyErr := ⟨.valueError, msg⟩

/-- A field of type `str`. -/
def strField : Value → Except PyErr String
  | .text s => .ok s
  | _ => .error (validationError "Input should be a valid string")

/-- A field of type `str | None`. -/
def strField? : Value → Except PyErr (Option String)
  | .null => .ok none
  | .text s => .ok (some s)
  | .integer _ => .error (validationError "Input should be a valid string")

/-- A field of type `int | None`. -/
def intField? : Value → Except PyErr (Option Int)
  | .null => .ok none
  | .integer n => .ok (some n)
  | .text _ => .error (validationError "Input should be a valid integer")

/-- The state of a task, of those that the `CHECK` admits. -/
def stateField (v : Value) : Except PyErr TaskState := do
  let s ← strField v
  (TaskState.ofName? s).elim (.error (validationError "no state")) .ok

/-- The id of a worker. -/
def workerIdField (v : Value) : Except PyErr WorkerId := do
  let s ← strField v
  (WorkerId.ofText? s).elim (.error (validationError "no worker id")) .ok

/-- The id of an event. -/
def eventIdField : Value → Except PyErr Nat
  | .integer (.ofNat n) => .ok n
  | _ => .error (validationError "Input should be a valid integer")

/-- `_json`. -/
def json (limits : PyJson.Limits) (value : Value) (dflt : Json) : Except PyErr Json :=
  match value with
  | .null => .ok dflt
  | .text s => if s = "" then .ok dflt else PyJson.loads limits s.toList
  | .integer n =>
    if n = 0 then .ok dflt
    else .error ⟨.typeError, "the JSON object must be str, bytes or bytearray, not int"⟩

/-- A field of type `dict[str, Any]` that is stored as JSON. -/
def dictField (limits : PyJson.Limits) (value : Value) : Except PyErr JsonObj := do
  match ← json limits value (.obj []) with
  | .obj kvs => .ok kvs
  | _ => .error (validationError "Input should be a valid dictionary")

/-- `json.dumps(d)`. -/
def dumpsText (d : JsonObj) : Value := .text (String.ofList (PyJson.dumps true (.obj d)))

/-! ## Records -/

/-- `models.Project`. -/
structure ProjectRecord extends Project where
  config : JsonObj

inductive ProjectColumn
  | id | name | config | feishuBase | feishuTable | createdAt
  deriving DecidableEq

def projectColumns : List ProjectColumn :=
  [.id, .name, .config, .feishuBase, .feishuTable, .createdAt]

/-- The values of `create_project`. -/
def projectValues (p : ProjectRecord) : List Value :=
  [.text p.id, .text p.name, dumpsText p.config, .ofText p.feishuBase, .ofText p.feishuTable,
   .text p.createdAt]

/-- `_project_from_row`. -/
def projectFromRow (limits : PyJson.Limits) (r : Row ProjectColumn) : Except PyErr ProjectRecord := do
  return {
    id := ← strField (r .id)
    name := ← strField (r .name)
    config := ← dictField limits (r .config)
    feishuBase := ← strField? (r .feishuBase)
    feishuTable := ← strField? (r .feishuTable)
    createdAt := ← strField (r .createdAt) }

inductive TaskColumn
  | id | projectId | name | spec | state | workspacePath | runtime | targetHost | resourceReq
  | evaluator | owner | metadata | createdAt | updatedAt
  deriving DecidableEq

def taskColumns : List TaskColumn :=
  [.id, .projectId, .name, .spec, .state, .workspacePath, .runtime, .targetHost, .resourceReq,
   .evaluator, .owner, .metadata, .createdAt, .updatedAt]

/-- `_task_values`. -/
def taskValues (t : Task) : List Value :=
  [.text t.id, .text t.projectId, .text t.name, .text t.spec, .text t.state.name,
   .ofText t.workspacePath, .text t.runtime, .ofText t.targetHost, dumpsText t.resourceReq,
   .ofText t.evaluator, .ofText t.owner, dumpsText t.metadata, .text t.createdAt, .text t.updatedAt]

/-- `_task_from_row`. -/
def taskFromRow (limits : PyJson.Limits) (r : Row TaskColumn) : Except PyErr Task := do
  return {
    id := ← strField (r .id)
    projectId := ← strField (r .projectId)
    name := ← strField (r .name)
    spec := ← strField (r .spec)
    state := ← stateField (r .state)
    workspacePath := ← strField? (r .workspacePath)
    runtime := ← strField (r .runtime)
    targetHost := ← strField? (r .targetHost)
    resourceReq := ← dictField limits (r .resourceReq)
    evaluator := ← strField? (r .evaluator)
    owner := ← strField? (r .owner)
    metadata := ← dictField limits (r .metadata)
    createdAt := ← strField (r .createdAt)
    updatedAt := ← strField (r .updatedAt) }

/-- `models.Worker`. -/
structure WorkerRecord extends Worker where
  extra : JsonObj

inductive WorkerColumn
  | id | taskId | status | sessionHandle | sessionUuid | paneId | pid | resourceLockId | startedAt
  | endedAt | extra
  deriving DecidableEq

def workerColumns : List WorkerColumn :=
  [.id, .taskId, .status, .sessionHandle, .sessionUuid, .paneId, .pid, .resourceLockId, .startedAt,
   .endedAt, .extra]

/-- `_worker_values`. -/
def workerValues (w : WorkerRecord) : List Value :=
  [.text w.id.text, .text w.taskId, .text w.status, .ofText w.sessionHandle, .ofText w.sessionUuid,
   .ofText w.paneId, .ofInt w.pid, .ofText w.resourceLockId, .text w.startedAt, .ofText w.endedAt,
   dumpsText w.extra]

/-- `_worker_from_row`. -/
def workerFromRow (limits : PyJson.Limits) (r : Row WorkerColumn) : Except PyErr WorkerRecord := do
  return {
    id := ← workerIdField (r .id)
    taskId := ← strField (r .taskId)
    status := ← strField (r .status)
    sessionHandle := ← strField? (r .sessionHandle)
    sessionUuid := ← strField? (r .sessionUuid)
    paneId := ← strField? (r .paneId)
    pid := ← intField? (r .pid)
    resourceLockId := ← strField? (r .resourceLockId)
    startedAt := ← strField (r .startedAt)
    endedAt := ← strField? (r .endedAt)
    extra := ← dictField limits (r .extra) }

inductive EventColumn
  | id | taskId | type | payload | ts
  deriving DecidableEq

def eventColumns : List EventColumn := [.taskId, .type, .payload, .ts]

/-- The values of an `INSERT INTO event`. -/
def eventValues (e : Event) : List Value :=
  [.text e.taskId, .text e.type, dumpsText e.payload, .text e.ts]

/-- `_event_from_row`. -/
def eventFromRow (limits : PyJson.Limits) (r : Row EventColumn) : Except PyErr EventRow := do
  return {
    id := ← eventIdField (r .id)
    taskId := ← strField (r .taskId)
    type := ← strField (r .type)
    payload := ← dictField limits (r .payload)
    ts := ← strField (r .ts) }

/-- `models.Host`. -/
structure HostRecord extends Host where
  gpu : Option String
  notes : String
  createdAt : String

inductive HostColumn
  | id | sshAlias | remoteRoot | gpu | notes | createdAt
  deriving DecidableEq

def hostColumns : List HostColumn := [.id, .sshAlias, .remoteRoot, .gpu, .notes, .createdAt]

/-- The values of `create_host`. -/
def hostValues (h : HostRecord) : List Value :=
  [.text h.id, .text h.sshAlias, .text h.remoteRoot, .ofText h.gpu, .text h.notes,
   .text h.createdAt]

/-- The record that `get_host` and `list_hosts` make of a row. -/
def hostFromRow (r : Row HostColumn) : Except PyErr HostRecord := do
  return {
    id := ← strField (r .id)
    sshAlias := ← strField (r .sshAlias)
    remoteRoot := ← strField (r .remoteRoot)
    gpu := ← strField? (r .gpu)
    notes := ← strField (r .notes)
    createdAt := ← strField (r .createdAt) }

/-! ## Fields are read back -/

end Rows

theorem WorkerId.ofText?_text (wid : WorkerId) : WorkerId.ofText? wid.text = some wid := by
  have htext : wid.text.toList.reverse =
      (Nat.toDigits 10 wid.serial).reverse ++ '_' :: (wid.task.toList.reverse ++ ['_', 'w']) := by
    simp [WorkerId.text]
  have hall : ∀ c ∈ (Nat.toDigits 10 wid.serial).reverse, PyJson.isDigit c = true :=
    fun c hc => PyJson.isDigit_of_mem_toDigits (List.mem_reverse.mp hc)
  have hunderscore : PyJson.isDigit '_' = false := rfl
  unfold WorkerId.ofText?
  rw [htext, List.takeWhile_append_of_pos hall, List.dropWhile_append_of_pos hall,
    List.takeWhile_cons_of_neg (by simp [hunderscore]),
    List.dropWhile_cons_of_neg (by simp [hunderscore])]
  simp [PyJson.digitsValue_toDigits]

theorem WorkerId.text_inj {wid wid' : WorkerId} : wid.text = wid'.text ↔ wid = wid' := by
  refine ⟨fun h => ?_, congrArg _⟩
  have htext := WorkerId.ofText?_text wid
  rw [h, WorkerId.ofText?_text] at htext
  exact (Option.some.inj htext).symm

namespace Rows

@[simp] theorem strField_text (s : String) : strField (.text s) = .ok s := rfl

@[simp] theorem strField?_ofText (s : Option String) : strField? (.ofText s) = .ok s := by
  cases s <;> rfl

@[simp] theorem intField?_ofInt (n : Option Int) : intField? (.ofInt n) = .ok n := by
  cases n <;> rfl

@[simp] theorem stateField_name (st : TaskState) : stateField (.text st.name) = .ok st := by
  show (TaskState.ofName? st.name).elim _ Except.ok = .ok st
  rw [TaskState.ofName?_name]
  rfl

@[simp] theorem workerIdField_text (wid : WorkerId) : workerIdField (.text wid.text) = .ok wid := by
  show (WorkerId.ofText? wid.text).elim _ Except.ok = .ok wid
  rw [WorkerId.ofText?_text]
  rfl

@[simp] theorem eventIdField_integer (n : Nat) : eventIdField (.integer n) = .ok n := rfl

/-- A dictionary is read back from its text. -/
theorem dictField_dumpsText {limits : PyJson.Limits} {d : JsonObj}
    (h : PyJson.writable limits limits.maxDepth (.obj d) = true) :
    dictField limits (dumpsText d) = .ok d := by
  have hne : String.ofList (PyJson.dumps true (.obj d)) ≠ "" := fun h => by
    have hlist := congrArg String.toList h
    simp [PyJson.dumps] at hlist
  have hjson : json limits (dumpsText d) (.obj []) = .ok (.obj d) := by
    simp only [json, dumpsText]
    rw [if_neg hne, String.toList_ofList, PyJson.loads_dumps true limits _ h]
  unfold dictField
  rw [hjson]
  rfl

/-! ## Rows of records -/

/-- The row is that of the project, with some configuration. -/
structure ProjectRow (limits : PyJson.Limits) (r : Row ProjectColumn) (p : Project) : Prop where
  id : r .id = .text p.id
  name : r .name = .text p.name
  config : ∃ config, dictField limits (r .config) = .ok config
  feishuBase : r .feishuBase = .ofText p.feishuBase
  feishuTable : r .feishuTable = .ofText p.feishuTable
  createdAt : r .createdAt = .text p.createdAt

/-- The row is that of the task. -/
structure TaskRow (limits : PyJson.Limits) (r : Row TaskColumn) (t : Task) : Prop where
  id : r .id = .text t.id
  projectId : r .projectId = .text t.projectId
  name : r .name = .text t.name
  spec : r .spec = .text t.spec
  state : r .state = .text t.state.name
  workspacePath : r .workspacePath = .ofText t.workspacePath
  runtime : r .runtime = .text t.runtime
  targetHost : r .targetHost = .ofText t.targetHost
  resourceReq : dictField limits (r .resourceReq) = .ok t.resourceReq
  evaluator : r .evaluator = .ofText t.evaluator
  owner : r .owner = .ofText t.owner
  metadata : dictField limits (r .metadata) = .ok t.metadata
  createdAt : r .createdAt = .text t.createdAt
  updatedAt : r .updatedAt = .text t.updatedAt

/-- The row is that of the worker, with some `extra`. -/
structure WorkerRow (limits : PyJson.Limits) (r : Row WorkerColumn) (w : Worker) : Prop where
  id : r .id = .text w.id.text
  taskId : r .taskId = .text w.taskId
  status : r .status = .text w.status
  sessionHandle : r .sessionHandle = .ofText w.sessionHandle
  sessionUuid : r .sessionUuid = .ofText w.sessionUuid
  paneId : r .paneId = .ofText w.paneId
  pid : r .pid = .ofInt w.pid
  resourceLockId : r .resourceLockId = .ofText w.resourceLockId
  startedAt : r .startedAt = .text w.startedAt
  endedAt : r .endedAt = .ofText w.endedAt
  extra : ∃ extra, dictField limits (r .extra) = .ok extra

/-- The row is that of the event. -/
structure IsEventRow (limits : PyJson.Limits) (r : Row EventColumn) (e : EventRow) : Prop where
  id : r .id = .integer e.id
  taskId : r .taskId = .text e.taskId
  type : r .type = .text e.type
  payload : dictField limits (r .payload) = .ok e.payload
  ts : r .ts = .text e.ts

/-- The row is that of the host, with some details. -/
structure HostRow (r : Row HostColumn) (h : Host) : Prop where
  id : r .id = .text h.id
  sshAlias : r .sshAlias = .text h.sshAlias
  remoteRoot : r .remoteRoot = .text h.remoteRoot
  gpu : ∃ gpu, r .gpu = .ofText gpu
  notes : ∃ notes, r .notes = .text notes
  createdAt : ∃ createdAt, r .createdAt = .text createdAt

section Insert

variable {limits : PyJson.Limits}

theorem projectRow_insert (p : ProjectRecord)
    (h : PyJson.writable limits limits.maxDepth (.obj p.config) = true) :
    ProjectRow limits (insert projectColumns (projectValues p)) p.toProject where
  id := rfl
  name := rfl
  config := ⟨_, dictField_dumpsText h⟩
  feishuBase := rfl
  feishuTable := rfl
  createdAt := rfl

theorem taskRow_insert (t : Task)
    (hreq : PyJson.writable limits limits.maxDepth (.obj t.resourceReq) = true)
    (hmeta : PyJson.writable limits limits.maxDepth (.obj t.metadata) = true) :
    TaskRow limits (insert taskColumns (taskValues t)) t where
  id := rfl
  projectId := rfl
  name := rfl
  spec := rfl
  state := rfl
  workspacePath := rfl
  runtime := rfl
  targetHost := rfl
  resourceReq := dictField_dumpsText hreq
  evaluator := rfl
  owner := rfl
  metadata := dictField_dumpsText hmeta
  createdAt := rfl
  updatedAt := rfl

theorem workerRow_insert (w : WorkerRecord)
    (h : PyJson.writable limits limits.maxDepth (.obj w.extra) = true) :
    WorkerRow limits (insert workerColumns (workerValues w)) w.toWorker where
  id := rfl
  taskId := rfl
  status := rfl
  sessionHandle := rfl
  sessionUuid := rfl
  paneId := rfl
  pid := rfl
  resourceLockId := rfl
  startedAt := rfl
  endedAt := rfl
  extra := ⟨_, dictField_dumpsText h⟩

/-- `AUTOINCREMENT` sets the id. -/
theorem eventRow_insert (e : EventRow)
    (h : PyJson.writable limits limits.maxDepth (.obj e.payload) = true) :
    IsEventRow limits (update [(.id, .integer e.id)] (insert eventColumns (eventValues e.toEvent)))
      e where
  id := rfl
  taskId := rfl
  type := rfl
  payload := dictField_dumpsText h
  ts := rfl

theorem hostRow_insert (h : HostRecord) : HostRow (insert hostColumns (hostValues h)) h.toHost where
  id := rfl
  sshAlias := rfl
  remoteRoot := rfl
  gpu := ⟨_, rfl⟩
  notes := ⟨_, rfl⟩
  createdAt := ⟨_, rfl⟩

end Insert

/-! ## Rows are read back -/

section Read

variable {limits : PyJson.Limits}

theorem projectFromRow_eq {r : Row ProjectColumn} {p : Project} (h : ProjectRow limits r p) :
    ∃ config, projectFromRow limits r = .ok ⟨p, config⟩ := by
  obtain ⟨config, hconfig⟩ := h.config
  refine ⟨config, ?_⟩
  simp only [projectFromRow, h.id, h.name, hconfig, h.feishuBase, h.feishuTable, h.createdAt,
    strField_text, strField?_ofText]
  rfl

theorem taskFromRow_eq {r : Row TaskColumn} {t : Task} (h : TaskRow limits r t) :
    taskFromRow limits r = .ok t := by
  simp only [taskFromRow, h.id, h.projectId, h.name, h.spec, h.state, h.workspacePath, h.runtime,
    h.targetHost, h.resourceReq, h.evaluator, h.owner, h.metadata, h.createdAt, h.updatedAt,
    strField_text, strField?_ofText, stateField_name]
  rfl

theorem workerFromRow_eq {r : Row WorkerColumn} {w : Worker} (h : WorkerRow limits r w) :
    ∃ extra, workerFromRow limits r = .ok ⟨w, extra⟩ := by
  obtain ⟨extra, hextra⟩ := h.extra
  refine ⟨extra, ?_⟩
  simp only [workerFromRow, h.id, h.taskId, h.status, h.sessionHandle, h.sessionUuid, h.paneId,
    h.pid, h.resourceLockId, h.startedAt, h.endedAt, hextra, strField_text, strField?_ofText,
    intField?_ofInt, workerIdField_text]
  rfl

theorem eventFromRow_eq {r : Row EventColumn} {e : EventRow} (h : IsEventRow limits r e) :
    eventFromRow limits r = .ok e := by
  simp only [eventFromRow, h.id, h.taskId, h.type, h.payload, h.ts, strField_text,
    eventIdField_integer]
  rfl

theorem hostFromRow_eq {r : Row HostColumn} {h : Host} (hr : HostRow r h) :
    ∃ x : HostRecord, hostFromRow r = .ok x ∧ x.toHost = h := by
  obtain ⟨gpu, hgpu⟩ := hr.gpu
  obtain ⟨notes, hnotes⟩ := hr.notes
  obtain ⟨createdAt, hcreated⟩ := hr.createdAt
  refine ⟨⟨h, gpu, notes, createdAt⟩, ?_, rfl⟩
  simp only [hostFromRow, hr.id, hr.sshAlias, hr.remoteRoot, hgpu, hnotes, hcreated, strField_text,
    strField?_ofText]
  rfl

end Read

end Rows

end Flotilla
