import KerSorMonitor.Lib.Threads
import KerSorMonitor.Flotilla.Transactions

/-!
# One control-plane process (`flotilla/actuator.py`, `flotilla/resource`, `flotilla/runtime`)

The state that the threads of the control plane share: the database, the registry of worker
handles, the set of tasks under retirement, the GPU leases, and the external workers. The
actions are the steps that are atomic in the source: one store transaction, one operation
under the registry lock or the resource lock, one call of an adapter.

What a call into the outside returns or raises (the clock, SQLite being busy, a runtime, an
evaluator, a file) is chosen by the environment `Env` at each step.
-/

namespace Flotilla

open Keyed Threads

/-! ## Adapters -/

/-- A runtime adapter, by what the callers ask of it. -/
structure RuntimeAdapter where
  name : String
  supportsRemote : Bool
  minesSessionUuid : Bool
  hasPause : Bool
  hasResume : Bool
  deriving DecidableEq

/-- `str(KeyError(msg))`. -/
def keyError (msg : String) : PyErr := ⟨.keyError, pyRepr msg⟩

/-- `repr` of a list of texts. -/
def pyReprList (xs : List String) : String :=
  "[" ++ ", ".intercalate (xs.map pyRepr) ++ "]"

namespace Runtime

/-- `runtime.REGISTRY`: `ShellRuntime` and `ClaudeCodeTmuxRuntime`. -/
def registry : List RuntimeAdapter :=
  [⟨"shell", false, false, false, false⟩, ⟨"claude_tmux", true, true, false, false⟩]

/-- `runtime.get`. -/
def get (name : String) : Except PyErr RuntimeAdapter :=
  match registry.find? fun rt => rt.name = name with
  | some rt => .ok rt
  | none => .error (keyError
      ("unknown runtime: " ++ name ++ "; registered: " ++ pyReprList (registry.map RuntimeAdapter.name)))

end Runtime

namespace Resource

/-- `resource.REGISTRY`. -/
def registry : List String := ["cpu", "gpu"]

/-- `resource.get`, on a kind that is a text. -/
def get (kind : String) : Except PyErr String :=
  if registry.contains kind then .ok kind
  else .error (keyError
    ("unknown resource kind: " ++ kind ++ "; registered: " ++ pyReprList registry))

/-- `[A-Za-z0-9._-]`. -/
def isSafeChar (c : Char) : Bool := c.isAlphanum || c = '.' || c = '_' || c = '-'

/-- `[A-Za-z0-9._-]{1,128}`. -/
def isSafeId (s : String) : Bool :=
  let cs := s.toList
  1 ≤ cs.length && cs.length ≤ 128 && cs.all isSafeChar

end Resource

namespace Evaluator

/-- `evaluator.REGISTRY`. -/
def registry : List String := ["pytest"]

/-- `evaluator.get`. -/
def get (name : String) : Except PyErr String :=
  if registry.contains name then .ok name
  else .error (keyError
    ("unknown evaluator " ++ name ++ "; have " ++ pyReprList registry))

end Evaluator

/-! ## The shared state -/

/-- An entry of `_HANDLES`: the worker id (`""` is `none`) and the handle. -/
abbrev HandleEntry := Option WorkerId × WorkerHandle

/-- The state of one control-plane process and of the workers outside it. -/
structure World where
  db : Db
  /-- `_HANDLES`. -/
  handles : Dict TaskId HandleEntry
  /-- `_RETIRING`. -/
  retiring : List TaskId
  /-- `GpuResource._held`. A file descriptor is named by the worker id it was opened for. -/
  held : Dict String WorkerId
  /-- `CpuResource._count`. -/
  cpuCount : Nat
  /-- The worker ids drawn so far. -/
  serial : Nat
  /-- The external workers that were started and not stopped. -/
  alive : List WorkerId
  /-- The external workers whose stop failed at least once. -/
  stopFailed : List WorkerId

/-- The process after its start, on a database. -/
def World.boot (db : Db) : World :=
  ⟨db, Table.empty, [], Table.empty, 0, 0, [], []⟩

/-! ## Actions -/

/-- On whose behalf a handle is stopped or dropped. -/
inductive Caller
  | dispatcher (wid : WorkerId)
  | retirement (tid : TaskId) (wid : Option WorkerId)
  | actuation (tid : TaskId)
  deriving DecidableEq

/-- A dispatch that `tick` has prepared: `(task, worker_id, rt, ws_path, ssh_host, lock)`. -/
structure Dispatch where
  task : Task
  workerId : WorkerId
  rt : RuntimeAdapter
  wsPath : String
  sshHost : Option String
  lock : Option Lock

/-- `status.json` of a workspace: `stat` or `open` raised `OSError`, or its bytes. -/
inductive StatusFile
  | missing
  | content (bytes : List UInt8)

/-- What is published. A missing status is the latest status event of the task. -/
inductive Publication
  /-- `sinks.publish_task(store, task, status)`. -/
  | task (task : Task) (status : Option JsonObj)
  /-- The row of the task as it is then, if it is there: `_publish_task`. -/
  | current (tid : TaskId) (status : Option JsonObj)
  /-- `sinks.publish_view` of a tombstone of a task, with its last status. -/
  | tombstone (task : Task) (status : JsonObj)

/-- The atomic steps of the control plane. -/
inductive Act : Type → Type 1
  | store {α : Type} (q : Transaction α) : Act α
  /-- `models._now()`. -/
  | now : Act String
  /-- `f"w_{task.id}_{uuid.uuid4().hex[:12]}"`. -/
  | newWorkerId (tid : TaskId) : Act WorkerId
  | runningHandle (tid : TaskId) : Act (Option HandleEntry)
  | handlesSnapshot : Act (List (TaskId × HandleEntry))
  | register (tid : TaskId) (wid : Option WorkerId) (h : WorkerHandle) : Act Unit
  | unregister (tid : TaskId) (caller : Caller) : Act Unit
  /-- The first critical section of `retire`: `none` when the task is under retirement. -/
  | beginRetire (tid : TaskId) : Act (Option (Option WorkerHandle))
  | endRetire (tid : TaskId) : Act Unit
  | acquire (kind : String) (wid : WorkerId) (req : JsonObj) : Act (Option Lock)
  | releaseId (kind : String) (resourceId : String) (wid : WorkerId) : Act Unit
  /-- The next future of `as_completed`, with the result of its `rt.start`. -/
  | asCompleted (pending : List Dispatch) : Act (Nat × Except PyErr WorkerHandle)
  | stop (h : WorkerHandle) (caller : Caller) : Act Unit
  | observe (h : WorkerHandle) : Act Observation
  | paste (h : WorkerHandle) (text : Json) : Act Unit
  | pauseWorker (h : WorkerHandle) : Act Unit
  | resumeWorker (h : WorkerHandle) : Act Unit
  | mineSessionUuid (h : WorkerHandle) : Act (Option String)
  | sessionActivity (cwd uuid : String) : Act (Option JsonObj)
  | readStatus (workspace : String) : Act StatusFile
  | candidateCount (workspace : String) : Act Nat
  | isDir (path : String) : Act Bool
  /-- `Path.mkdir(parents=True, exist_ok=True)`. -/
  | makeDirs (path : String) : Act Unit
  | evaluate (name : String) (task : Task) (workspace : String) : Act EvalResult
  /-- `len(json.dumps(value))`. -/
  | dumpsLength (value : JsonObj) : Act Nat
  /-- `_window_name`, which contains a SHA-256 digest of the task id. -/
  | windowName (tid : TaskId) : Act String
  /-- `tmux list-panes`: `none` when the host is unreachable. -/
  | findPane (host : Option String) (target : String) : Act (Option String)
  /-- `sinks.publish_task` and `sinks.publish_view`, which only read the database. -/
  | publish (publication : Publication) : Act Unit

/-- What the outside answers at one step. -/
structure Env where
  clock : Clock := ⟨"", ""⟩
  /-- What the call raises. SQLite raises `OperationalError` with this text. -/
  raises : Option PyErr := none
  native : NativeHandle := .popen 0
  flockFree : Bool := true
  pick : Nat := 0
  observation : Observation := {}
  text : Option String := none
  record : Option JsonObj := none
  statusFile : StatusFile := .missing
  count : Nat := 0
  flag : Bool := false
  evalResult : EvalResult := ⟨false, .null, "", []⟩

/-- A call into the outside that changes nothing here. -/
def Env.outside {α : Type} (env : Env) (a : α) (w : World) : Except PyErr α × World :=
  match env.raises with
  | some e => (.error e, w)
  | none => (.ok a, w)

namespace World

/-- `GpuResource.acquire` and `CpuResource.acquire`. -/
def acquire (kind : String) (wid : WorkerId) (req : JsonObj) (env : Env) (w : World) :
    Except PyErr (Option Lock) × World :=
  if kind = "gpu" then
    match req.get? "uuid" with
    | none => (.ok none, w)
    | some v =>
      if !v.truthy then (.ok none, w)
      else
        match v.str? with
        | none => (.error ⟨.valueError, "gpu uuid must match [A-Za-z0-9._-]\x7b1,128\x7d"⟩, w)
        | some uuid =>
          if !Resource.isSafeId uuid then
            (.error ⟨.valueError, "gpu uuid must match [A-Za-z0-9._-]\x7b1,128\x7d"⟩, w)
          else if (Dict.get? w.held uuid).isSome then (.ok none, w)
          else
            match env.raises with
            | some e => (.error ⟨.osError, e.msg⟩, w)
            | none =>
              if env.flockFree then
                (.ok (some ⟨uuid, wid⟩), { w with held := Dict.set w.held uuid wid })
              else (.ok none, w)
  else (.ok (some ⟨"cpu", wid⟩), { w with cpuCount := w.cpuCount + 1 })

/-- `GpuResource.release_id` and `CpuResource.release_id`. The lease is dropped before the
file is unlocked, which may raise. -/
def releaseId (kind : String) (resourceId : String) (env : Env) (w : World) :
    Except PyErr Unit × World :=
  if kind = "gpu" then
    match Dict.get? w.held resourceId with
    | none => (.ok (), w)
    | some _ => env.outside () { w with held := Dict.pop w.held resourceId }
  else (.ok (), { w with cpuCount := w.cpuCount - 1 })

/-- `rt.start` of one prepared dispatch: it raises, or starts the worker. Here a start that raises
has no external effect; `Runtime/FailedStart.lean` says when that is so. -/
def startWorker (d : Dispatch) (env : Env) (w : World) : Except PyErr WorkerHandle × World :=
  match env.raises with
  | some e => (.error e, w)
  | none =>
    (.ok ⟨d.task.id, d.wsPath, d.rt.name, env.native, d.workerId⟩,
      { w with alive := d.workerId :: w.alive })

/-- `rt.stop`. -/
def stopWorker (h : WorkerHandle) (env : Env) (w : World) : Except PyErr Unit × World :=
  match env.raises with
  | some e => (.error e, { w with stopFailed := h.proc :: w.stopFailed })
  | none => (.ok (), { w with alive := w.alive.filter (· ≠ h.proc) })

/-- `runtime.get(handle.backend).stop(handle)`. -/
def stop (h : WorkerHandle) (env : Env) (w : World) : Except PyErr Unit × World :=
  match Runtime.get h.backend with
  | .error e => (.error e, { w with stopFailed := h.proc :: w.stopFailed })
  | .ok _ => w.stopWorker h env

/-- What an action does. -/
def exec (settings : Settings) (env : Env) :
    {β : Type} → Act β → World → Except PyErr β × World
  | _, .store q, w =>
    match env.raises with
    | some e => (.error ⟨.operationalError, e.msg⟩, w)
    | none =>
      let (r, db) := q.exec settings env.clock w.db
      (r, { w with db := db })
  | _, .now, w => (.ok env.clock.now, w)
  | _, .newWorkerId tid, w => (.ok ⟨tid, w.serial⟩, { w with serial := w.serial + 1 })
  | _, .runningHandle tid, w => (.ok (Dict.get? w.handles tid), w)
  | _, .handlesSnapshot, w => (.ok w.handles.rows, w)
  | _, .register tid wid h, w => (.ok (), { w with handles := Dict.set w.handles tid (wid, h) })
  | _, .unregister tid _, w => (.ok (), { w with handles := Dict.pop w.handles tid })
  | _, .beginRetire tid, w =>
    if w.retiring.contains tid then (.ok none, w)
    else (.ok (some ((Dict.get? w.handles tid).map Prod.snd)),
      { w with retiring := tid :: w.retiring })
  | _, .endRetire tid, w => (.ok (), { w with retiring := w.retiring.filter (· ≠ tid) })
  | _, .acquire kind wid req, w => w.acquire kind wid req env
  | _, .releaseId kind resourceId _, w => w.releaseId kind resourceId env
  | _, .asCompleted pending, w =>
    match pending[env.pick % pending.length]? with
    | none => (.error ⟨.runtimeError, "no pending dispatch"⟩, w)
    | some d =>
      let (r, w') := w.startWorker d env
      (.ok (env.pick % pending.length, r), w')
  | _, .stop h _, w => w.stop h env
  | _, .observe _, w => env.outside env.observation w
  | _, .paste _ _, w => env.outside () w
  | _, .pauseWorker _, w => env.outside () w
  | _, .resumeWorker _, w => env.outside () w
  | _, .mineSessionUuid _, w => env.outside env.text w
  | _, .sessionActivity _ _, w => env.outside env.record w
  | _, .readStatus _, w => (.ok env.statusFile, w)
  | _, .candidateCount _, w => env.outside env.count w
  | _, .isDir _, w => (.ok env.flag, w)
  | _, .makeDirs _, w => env.outside () w
  | _, .evaluate _ _ _, w => env.outside env.evalResult w
  | _, .dumpsLength _, w => (.ok env.count, w)
  | _, .windowName _, w => (.ok (env.text.getD ""), w)
  | _, .findPane _ _, w => env.outside env.text w
  | _, .publish _, w => env.outside () w

end World

end Flotilla
