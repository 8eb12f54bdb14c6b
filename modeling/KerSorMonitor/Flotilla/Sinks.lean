import KerSorMonitor.Lib.Sequential
import KerSorMonitor.Flotilla.Programs
import KerSorMonitor.Flotilla.WebSink

/-!
# What the sinks show (`flotilla/sinks/__init__.py`)

The views that are published, and the control plane together with the latest map of its
`WebSink`. The system has the programs of the control plane; its publications also apply the view
to the map.
-/

namespace Flotilla

namespace Sinks

open Keyed Threads

/-! ## Task views -/

/-- `_STATUS_DEFAULTS`. -/
def statusDefaults : JsonObj :=
  [("status_state", .null), ("speedup", .null), ("rounds", .int 0), ("candidates", .int 0),
   ("best_candidate", .null), ("timestamp", .str ""), ("pane_tail", .str ""),
   ("session_uuid", .null), ("last_activity", .str ""), ("last_tool", .null), ("tokens", .int 0),
   ("exited", .bool false), ("source", .null)]

/-- `_PRIVATE_METADATA_KEYS`. -/
def privateMetadataKeys : List String := ["command", "boot_command"]

/-- `_PRIVATE_METADATA_FRAGMENTS`. -/
def privateMetadataFragments : List String :=
  ["secret", "token", "password", "api_key", "private_key"]

/-- `_public_metadata`. -/
def publicMetadata (metadata : JsonObj) : JsonObj :=
  metadata.filter fun kv =>
    let key := pyLower kv.1
    !privateMetadataKeys.contains key &&
      !privateMetadataFragments.any fun fragment => containsText fragment.toList key.toList

/-- A task view without `spec`, beyond the id, the project and the mark of a tombstone. -/
structure ViewBody where
  name : String
  state : TaskState
  workspacePath : Option String
  runtime : String
  targetHost : Option String
  resourceReq : JsonObj
  evaluator : Option String
  owner : Option String
  metadata : JsonObj
  createdAt : String
  updatedAt : String
  telemetry : JsonObj

abbrev View := WebSink.TaskView ViewBody

/-- The telemetry of a view. -/
def telemetry (status : JsonObj) : JsonObj :=
  let normalized := normalizeStatusRecord status
  statusDefaults.map fun kv => (kv.1, (normalized.get? kv.1).getD kv.2)

/-- `build_task_view`, with a status and without `spec`. -/
def buildTaskView (task : Task) (status : JsonObj) (deleted : Bool) : View where
  id := task.id
  projectId := some task.projectId
  deleted := deleted
  body :=
    { name := task.name, state := task.state, workspacePath := task.workspacePath,
      runtime := task.runtime, targetHost := task.targetHost, resourceReq := task.resourceReq,
      evaluator := task.evaluator, owner := task.owner, metadata := publicMetadata task.metadata,
      createdAt := task.createdAt, updatedAt := task.updatedAt, telemetry := telemetry status }

/-- The status that `build_task_view` reads when it is given none. -/
def latestStatus (tid : TaskId) (db : Db) : JsonObj :=
  ((Store.statusEvents tid 1 db).getLast?.map Event.payload).getD []

/-! ## The control plane with its sink -/

/-- The control plane and the latest map of its `WebSink`. -/
structure Published where
  world : World
  /-- `_LATEST`. -/
  latest : String → WebSink.TaskMap ViewBody
  /-- Ghost: the tasks that the sink ever showed. -/
  ever : List TaskId

namespace Published

/-- The process after its start. -/
def boot (db : Db) : Published := ⟨.boot db, fun _ => Table.empty, []⟩

/-- `publish_view`, as far as the latest map goes. -/
def publishView (pid : String) (v : View) (s : Published) : Published :=
  { s with
    latest := WebSink.setAt s.latest pid (WebSink.applyView (s.latest pid) v)
    ever := if v.id = "" || v.deleted then s.ever else v.id :: s.ever }

/-- `publish_task`. -/
def publishTask (task : Task) (status : Option JsonObj) (s : Published) : Published :=
  s.publishView task.projectId
    (buildTaskView task (status.getD (latestStatus task.id s.world.db)) false)

/-- What a publication does. -/
def publish (s : Published) : Publication → Published
  | .task task status => s.publishTask task status
  | .current tid status =>
    match s.world.db.task? tid with
    | none => s
    | some task => s.publishTask task status
  | .tombstone task status => s.publishView task.projectId (buildTaskView task status true)

/-- What an action does to the sink. -/
def note {β : Type} (a : Act β) (r : Except PyErr β) (s : Published) : Published :=
  match a, r with
  | .publish p, .ok _ => s.publish p
  | _, _ => s

/-- What an action does. -/
def exec (settings : Settings) {β : Type} (a : Act β) (env : Env) (s : Published) :
    Except PyErr β × Published :=
  let (r, w) := World.exec settings env a s.world
  (r, note a r { s with world := w })

/-- The view of a task as the database has it. -/
def view? (tid : TaskId) (s : Published) : Option View :=
  (s.world.db.task? tid).map fun task =>
    buildTaskView task (latestStatus tid s.world.db) false

/-- Every task that was ever shown is shown as the database has it, in its project alone; a task
that is no more there is not shown. -/
def InStep (s : Published) : Prop :=
  ∀ tid pid, Dict.get? (s.latest pid) tid =
    if s.ever.contains tid then (s.view? tid).filter fun v => v.projectId = some pid else none

end Published

/-- The control plane with its sink. The sink is lost with the process. -/
def publishing (settings : Settings) : System Act PyErr Published Env Op where
  exec _ {_} a env s := Published.exec settings a env s
  program := Op.program settings
  finish _ s := s
  restart s := .boot s.world.db

end Sinks

end Flotilla
