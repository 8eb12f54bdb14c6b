import KerSorMonitor.Flotilla.Scheduler

/-!
# Requests and startup (`flotilla/routes.py`, `flotilla/app.py`)

The handlers that change the state of tasks, the reconciliation at startup, and the system
that they make together with the scheduler and the observer.
-/

namespace Flotilla

open Keyed Threads
open Prog (call)

/-- `raise HTTPException(status, detail)`. -/
def httpException {α : Type} (status : Nat) (detail : String) : Program α :=
  .throw ⟨.httpException status, detail⟩

/-- `except KeyError as exc: raise HTTPException(400, str(exc))`. -/
def badRequestOf {α : Type} : Except PyErr α → Program α
  | .ok a => pure a
  | .error e => if e.cls = .keyError then httpException 400 e.msg else .throw e

/-- `_check_id`. -/
def checkId (value : Option String) (label : String) : Program Unit :=
  if value.any Resource.isSafeId then pure ()
  else httpException 400
    ("invalid " ++ label ++ ": must be 1-128 characters from [A-Za-z0-9._-]")

/-- `not text.strip()`. -/
def isBlank (s : String) : Bool :=
  s.toList.all fun c =>
    let n := c.toNat
    (0x09 ≤ n && n ≤ 0x0D) || (0x1C ≤ n && n ≤ 0x20) || n = 0x85 || n = 0xA0 || n = 0x1680 ||
      (0x2000 ≤ n && n ≤ 0x200A) || n = 0x2028 || n = 0x2029 || n = 0x202F || n = 0x205F ||
      n = 0x3000

/-! ## Creation -/

/-- The checks of `_validate_task_create` on the host and the runtime. -/
def validateRuntime (item : TaskCreate) : Program Unit := do
  match nonEmpty? item.targetHost with
  | none =>
    let _ ← badRequestOf (Runtime.get item.runtime)
    return ()
  | some hid =>
    checkId (some hid) "target_host"
    match ← store (.getHost hid) with
    | none => httpException 400 ("unknown target_host: " ++ hid)
    | some _ =>
      let rt ← badRequestOf (Runtime.get item.runtime)
      if rt.supportsRemote then return ()
      else httpException 400 ("runtime " ++ item.runtime ++ " does not support remote hosts")

/-- The checks of `_validate_task_create` on the resource. -/
def validateResource (item : TaskCreate) : Program Unit :=
  match (item.resourceReq.get? "kind").filter Json.truthy with
  | none => pure ()
  | some kind => do
    let adapter ← badRequestOf (resourceGet kind)
    if adapter = "gpu" then checkId ((item.resourceReq.get? "uuid").bind Json.str?) "gpu uuid"
    else return ()

/-- The checks of `_validate_task_create` on the evaluator. -/
def validateEvaluator (item : TaskCreate) : Program Unit :=
  match nonEmpty? item.evaluator with
  | none => pure ()
  | some name => do
    let _ ← badRequestOf (Evaluator.get name)
    if (nonEmpty? item.targetHost).isSome then
      httpException 400 "evaluators currently require a local workspace"
    else return ()

/-- The values of `metadata.effort` that are accepted. -/
def isEffort : Option Json → Bool
  | none => true
  | some .null => true
  | some (.str s) => ["", "low", "medium", "high", "xhigh", "max"].contains s
  | some _ => false

/-- The checks of `_validate_task_create` on the metadata. -/
def validateMetadata (settings : Settings) (item : TaskCreate) : Program Unit := do
  if !isEffort (item.metadata.get? "effort") then
    httpException 400
      ("unsupported effort value: " ++ ((item.metadata.get? "effort").getD .null).pyRepr)
  else if (item.metadata.get? "boot_command").isSome && !settings.allowTaskBootCommand then
    httpException 400 "metadata.boot_command is disabled on this deployment"
  else if item.runtime = "shell" && !settings.allowShellRuntime then
    httpException 400 ("shell runtime is disabled; trusted deployments may set " ++
      "FLOTILLA_ALLOW_SHELL_RUNTIME=1")
  else if item.runtime = "shell" &&
      (((item.metadata.get? "command").bind Json.str?).all isBlank) then
    httpException 400 "shell runtime requires a non-empty metadata.command"
  else
    let length ← call (.dumpsLength item.metadata)
    if 65536 < length then httpException 413 "task metadata exceeds 64 KiB"
    else return ()

/-- `_validate_task_create`. -/
def validateTaskCreate (settings : Settings) (pid : String) (item : TaskCreate) :
    Program Task := do
  checkId (some item.id) "task id"
  validateRuntime item
  validateResource item
  validateEvaluator item
  validateMetadata settings item
  let now ← call .now
  return { id := item.id, projectId := pid, name := item.name, spec := item.spec,
           state := .queued, runtime := item.runtime, targetHost := item.targetHost,
           resourceReq := item.resourceReq, evaluator := item.evaluator, owner := item.owner,
           metadata := item.metadata, createdAt := now, updatedAt := now }

/-- `[_validate_task_create(s, pid, item) for item in tasks]`. -/
def validateAll (settings : Settings) (pid : String) : List TaskCreate → Program (List Task)
  | [] => pure []
  | item :: items => do
    let task ← validateTaskCreate settings pid item
    let tasks ← validateAll settings pid items
    return task :: tasks

/-- `for task in prepared: sinks.publish_task(s, task, {})`. -/
def publishCreated : List Task → Program Unit
  | [] => pure ()
  | task :: tasks => do
    call (.publish (.task task (some [])))
    publishCreated tasks

/-- `create_tasks`: the batch is validated before its one transaction. -/
def createTasks (settings : Settings) (pid : String) (tasks : List TaskCreate) :
    Program Nat := do
  checkId (some pid) "project id"
  if tasks.isEmpty then httpException 400 "task batch must not be empty"
  else if 500 < tasks.length then httpException 413 "task batch exceeds 500 items"
  else
    match ← store (.getProject pid) with
    | none => httpException 404 "project not found"
    | some _ =>
      if !decide (tasks.map TaskCreate.id).Nodup then
        httpException 409 "task ids must be unique within a batch"
      else
        let existing ← store (.existingTaskIds (tasks.map TaskCreate.id))
        if !existing.isEmpty then httpException 409 "one or more task ids already exist"
        else
          let prepared ← validateAll settings pid tasks
          match ← (store (.createTasks prepared)).attempt with
          | .error exc =>
            -- a concurrent request may win after the preflight check
            if exc.cls = .integrityError then
              httpException 409 "one or more task ids already exist"
            else .throw exc
          | .ok () =>
            publishCreated prepared
            return prepared.length

/-! ## Deletion -/

/-- `{"DISPATCHING", "RUNNING", "PAUSED", "STUCK"}`. -/
def TaskState.isActive (st : TaskState) : Bool := st == .dispatching || st.isLive

/-- The stop that a deletion of an active task requires. -/
def stopForDelete (tid : TaskId) : Program Unit := do
  match ← (actuate tid "stop" []).attempt with
  | .error exc => httpException 409 ("could not stop active task: " ++ exc.msg)
  | .ok (.error reason) => httpException 409 ("could not stop active task: " ++ reason)
  | .ok (.ok ()) => return ()

/-- The end of `delete_task`: the tombstone is built before the delete and published after. -/
def eraseTask (tid : TaskId) (t : Task) : Program Unit := do
  let t' ← store (.getTask tid)
  let events ← store (.statusEvents tid 1)
  store (.deleteTask tid)
  call (.publish (.tombstone (t'.getD t) ((events.getLast?.map Event.payload).getD [])))

/-- `delete_task`. -/
def deleteTask (tid : TaskId) : Program Unit := do
  match ← store (.getTask tid) with
  | none => httpException 404 "task not found"
  | some t =>
    if t.state.isActive then
      stopForDelete tid
      eraseTask tid t
    else
      match ← store (.activeWorkerId tid) with
      | none => eraseTask tid t
      | some _ =>
        stopForDelete tid
        eraseTask tid t

/-! ## Heartbeats -/

/-- The record of a heartbeat. -/
def pingRecord (body : WorkerPing) : JsonObj :=
  [("status_state", .str body.state),
   ("speedup", match body.speedup with
      | some f => .float f
      | none => .null),
   ("rounds", .int body.rounds), ("candidates", .int body.candidates),
   ("best_candidate", .ofOption body.bestCandidate), ("timestamp", .str body.timestamp),
   ("pane_tail", .str body.paneTail), ("session_uuid", .ofOption body.sessionUuid),
   ("last_activity", .str body.lastActivity), ("last_tool", .ofOption body.lastTool),
   ("tokens", .int body.tokens), ("exited", .bool false), ("source", .str "worker-ping")]

/-- The token check of `worker_ping`. `compare_digest` raises on texts outside ASCII. -/
def checkPingToken (settings : Settings) (authorization : Option String) : Program Unit :=
  if settings.workerPingToken = "" then pure ()
  else
    let supplied := authorization.getD ""
    let expected := "Bearer " ++ settings.workerPingToken
    if !((supplied.toList ++ expected.toList).all fun c => c.toNat < 0x80) then
      .throw ⟨.typeError, "comparing strings with non-ASCII characters is not supported"⟩
    else if supplied = expected then pure ()
    else httpException 401 "invalid worker heartbeat token"

/-- The retirement that a heartbeat asks for. -/
def retirePinged (tid : TaskId) (terminal : String) : Program Unit := do
  let wid ← store (.activeWorkerId tid)
  match ← retire tid wid (some terminal) true with
  | none => return ()
  | some state => recordEvent tid "terminal" [("state", .str state)]

/-- The terminal check of `worker_ping`. -/
def retireReported (body : WorkerPing) : Program Unit :=
  match mapTerminal (some body.state) false "" with
  | none => pure ()
  | some terminal => retirePinged body.taskId terminal

/-- `worker_ping`. -/
def workerPing (settings : Settings) (authorization : Option String) (body : WorkerPing) :
    Program Unit := do
  checkPingToken settings authorization
  checkId (some body.taskId) "task id"
  match ← store (.getTask body.taskId) with
  | none => httpException 404 "task not found"
  | some t =>
    if !t.state.isLive then httpException 409 "task has no active worker"
    else
      match ← store (.activeWorkerId body.taskId) with
      | none => httpException 409 "task has no active worker"
      | some _ =>
        recordEvent body.taskId "status" (pingRecord body)
        retireReported body
        publishEntry body.taskId (some (pingRecord body))

/-! ## Actuation -/

/-- The `actuate` handler. -/
def actuateTask (tid : TaskId) (action : String) (payload : Json) : Program Unit := do
  match ← store (.getTask tid) with
  | none => httpException 404 "task not found"
  | some _ =>
    if !(["nudge", "pause", "resume", "stop"].contains action) then
      httpException 400 "unknown task action"
    else
      match payload with
      | .obj payload =>
        let length ← call (.dumpsLength payload)
        if 16384 < length then httpException 413 "actuation payload exceeds 16 KiB"
        else if action = "nudge" && (((JsonObj.get? payload "text").bind Json.str?).all isBlank) then
          httpException 400 "nudge requires non-empty payload.text"
        else
          match ← actuate tid action payload with
          | .error reason => httpException 409 reason
          | .ok () =>
            recordEvent tid "actuation"
              [("action", .str action), ("payload", .obj payload)]
            publishEntry tid none
      | _ => httpException 400 "payload must be an object"

/-! ## Reconciliation -/

/-- `mark_lost`. -/
def markLost (tid : TaskId) (wid : Option WorkerId) (reason : String) (stopRuntime : Bool) :
    Program Unit := do
  match ← retire tid wid (some "LOST") stopRuntime with
  | none => return ()
  | some _ => recordEvent tid "reconcile_lost" [("reason", .str reason)]

/-- The window names that a task may have, without repetition: the current one, which is
`_window_name`, and the one of older builds. -/
def windowNames (window : String) (tid : TaskId) : List String :=
  let legacy := takeChars 40 ("flotilla_" ++ tid)
  if legacy = window then [window] else [window, legacy]

/-- The first of the windows that has a pane, with the pane: `none` when the host is unreachable,
an empty pane when there is no such window. -/
def findWindowAmong (settings : Settings) (host : Option String) :
    List String → Program (Option (String × String))
  | [] => pure (some ("", ""))
  | window :: names => do
    match ← call (.findPane host (settings.tmuxSession ++ ":" ++ window)) with
    | none => return none
    | some pane =>
      if pane ≠ "" then return some (window, pane)
      else findWindowAmong settings host names

/-- The window of a task and its pane. -/
def findWindow (settings : Settings) (tid : TaskId) (host : Option String) :
    Program (Option (String × String)) := do
  let window ← call (.windowName tid)
  findWindowAmong settings host (windowNames window tid)

/-- The host of a task at startup: `none` when it is not configured. -/
def reconcileHost (t : Task) : Program (Option (Option String)) :=
  match nonEmpty? t.targetHost with
  | none => pure (some none)
  | some hid => do
    let host ← store (.getHost hid)
    return host.map fun host => some host.sshAlias

/-- The end of a round, after the probes. -/
def reattach (settings : Settings) (t : Task) (workspace : String) (host : Option String)
    (wid : Option WorkerId) : Option (String × String) → Program Nat
  | none => pure 0
  | some (window, pane) => do
    if pane = "" then
      markLost t.id wid "tmux window no longer exists" false
      return 0
    else
      -- the process of a reattached window is the active worker's
      let h : WorkerHandle :=
        ⟨t.id, workspace, "claude_tmux",
          .tmux host settings.tmuxSession window pane none workspace,
          wid.getD ⟨t.id, 0⟩⟩
      call (.register t.id wid h)
      match wid with
      | none =>
        markLost t.id none "active worker row is missing" true
        return 0
      | some _ => return 1

/-- One round of `_reconcile_running`: how many workers it reattached. -/
def reconcileTask (settings : Settings) (t : Task) : Program Nat := do
  if !t.state.isLive then return 0
  else
    let wid ← store (.activeWorkerId t.id)
    match nonEmpty? t.workspacePath with
    | none =>
      markLost t.id wid "runtime handle cannot be reconstructed after restart" false
      return 0
    | some workspace =>
      if t.runtime ≠ "claude_tmux" then
        markLost t.id wid "runtime handle cannot be reconstructed after restart" false
        return 0
      else
        match ← reconcileHost t with
        | none =>
          markLost t.id wid
            ("target host " ++ pyRepr (t.targetHost.getD "") ++ " is not configured") false
          return 0
        | some host =>
          reattach settings t workspace host wid (← findWindow settings t.id host)

/-- The rounds of `_reconcile_running`. -/
def reconcileAll (settings : Settings) : List Task → Program Nat
  | [] => pure 0
  | t :: ts => do
    let n ← reconcileTask settings t
    let m ← reconcileAll settings ts
    return n + m

/-- `_reconcile_running`. -/
def reconcileRunning (settings : Settings) : Program Nat := do
  let tasks ← store .allTasks
  reconcileAll settings tasks

/-! ## The system -/

/-- The operations of the control plane. -/
inductive Op
  | createProject (p : Project)
  | createHost (h : Host)
  | createTasks (pid : String) (tasks : List TaskCreate)
  | deleteTask (tid : TaskId)
  | workerPing (authorization : Option String) (body : WorkerPing)
  | actuate (tid : TaskId) (action : String) (payload : Json)
  | tick
  | sweep
  | observeRunning
  /-- The operator's `set_task_state(tid, "QUEUED", expected_state="LOST")`. -/
  | recover (tid : TaskId)
  | reconcileRunning

/-- Forget the result. -/
def discard {α : Type} (p : Program α) : Program Unit := do
  let _ ← p
  return ()

/-- The program of an operation. -/
def Op.program (settings : Settings) : Op → Program Unit
  | .createProject p => discard (store (.createProject p))
  | .createHost h => store (.createHost h)
  | .createTasks pid tasks => discard (Flotilla.createTasks settings pid tasks)
  | .deleteTask tid => Flotilla.deleteTask tid
  | .workerPing authorization body => Flotilla.workerPing settings authorization body
  | .actuate tid action payload => actuateTask tid action payload
  | .tick => discard (Flotilla.tick settings)
  | .sweep => Flotilla.sweep
  | .observeRunning => discard (Flotilla.observeRunning settings)
  | .recover tid => discard (store (.setTaskState tid "QUEUED" (some [.lost])))
  | .reconcileRunning => discard (Flotilla.reconcileRunning settings)

/-- The threads of one control plane over its shared state. -/
def controlPlane (settings : Settings) : System Act PyErr Sys Env Op where
  exec := Sys.exec settings
  program := Op.program settings
  finish := Sys.finish
  restart := Sys.restart

/-- The control plane without its history. -/
def process (settings : Settings) : System Act PyErr World Env Op where
  exec _ {_} a env w := World.exec settings env a w
  program := Op.program settings
  finish _ w := w
  restart w := .boot w.db

/-! ## Runs -/

/-- Thread `t` makes its next `n` steps, at one time. -/
def stepsAt (clock : Clock) (t : ThreadId) (n : Nat) : List (Threads.Event Env Op) :=
  List.replicate n (.step t { clock := clock })

/-- Steps before anything expires. -/
def steps : ThreadId → Nat → List (Threads.Event Env Op) := stepsAt ⟨"1", "0"⟩

end Flotilla
