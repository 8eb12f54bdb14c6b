import KerSorMonitor.Flotilla.Observer

/-!
# Dispatch (`flotilla/scheduler.py`)

`tick` claims queued tasks in one transaction, prepares them one after the other, starts them
in a thread pool and completes them in the order in which their starts return. Every failure
is compensated.
-/

namespace Flotilla

open Keyed Threads
open Prog (call)

/-- `_publish_task`. -/
def publishTask (tid : TaskId) : Program Unit := (call (.publish (.current tid none))).ignoring

/-- `_event`. -/
def schedulerEvent (tid : TaskId) (type : String) (payload : JsonObj) : Program Unit :=
  (recordEvent tid type payload).ignoring

/-- `_observe`. -/
def observeDispatched (settings : Settings) (wid : WorkerId) (h : WorkerHandle) :
    Program Unit := do
  let _ ← (observeAndRecord settings (some wid) h true).attempt
  return ()

/-- `resource_req.get("kind")`, if it is truthy. -/
def Task.resourceKind (task : Task) : Option Json := (task.resourceReq.get? "kind").filter Json.truthy

/-- `resource.get(kind).release(lock)`. -/
def releaseKind (kind : Json) (lock : Lock) : Program Unit := do
  let kind ← Prog.ofExcept (resourceGet kind)
  call (.releaseId kind lock.resourceId lock.workerId)

/-- `_release_lock`. -/
def releaseLock (task : Task) (lock : Option Lock) : Program Unit :=
  match lock with
  | none => pure ()
  | some lock => (releaseKind ((task.resourceReq.get? "kind").getD .null) lock).ignoring

/-- `_finish_failed_claim`. -/
def finishFailedClaim (task : Task) (reason : String) (retryable : Bool) : Program Unit := do
  let target := if retryable then "QUEUED" else "FAILED"
  let released ← (store (.releaseTaskClaim task.id target)).attempt
  let (transitioned, reason) := match released with
    | .ok transitioned => (transitioned, reason)
    | .error exc => (false, reason ++ "; state compensation failed: " ++ exc.msg)
  schedulerEvent task.id "dispatch_failed"
    [("reason", .str reason), ("retryable", .bool retryable),
     ("state", if transitioned then .str target else .null)]
  publishTask task.id

/-! ## Preparation -/

/-- The workspace of a task and the ssh alias of its host. -/
def resolveHost (settings : Settings) (task : Task) : Program (String × Option String) :=
  match nonEmpty? task.targetHost with
  | none => pure (settings.workspacesRoot ++ "/ws_" ++ task.id, none)
  | some hid => do
    match ← store (.getHost hid) with
    | none => .throw ⟨.valueError, "unknown target_host: " ++ hid⟩
    | some host => return (host.remoteRoot ++ "/ws_" ++ task.id, some host.sshAlias)

/-- The adapter of the resource that the task asks for. -/
def resolveAdapter (task : Task) : Except PyErr (Option String) :=
  match task.resourceKind with
  | none => .ok none
  | some kind =>
    match resourceGet kind with
    | .ok adapter => .ok (some adapter)
    | .error e => .error e

/-- `_resolve_dispatch`: `none` when the resource is busy. Nothing that can fail follows the
acquisition. -/
def resolveDispatch (settings : Settings) (task : Task) (wid : WorkerId) :
    Program (Option Dispatch) := do
  let rt ← Prog.ofExcept (Runtime.get task.runtime)
  if task.resourceKind.any (fun k => k.str? = some "gpu") &&
      !((task.resourceReq.get? "uuid").any Json.truthy) then
    .throw ⟨.valueError, "gpu resource requires resource_req.uuid"⟩
  else
    let adapter ← Prog.ofExcept (resolveAdapter task)
    let (wsPath, sshHost) ← resolveHost settings task
    if (nonEmpty? sshHost).isSome && !rt.supportsRemote then
      .throw ⟨.valueError, "runtime " ++ task.runtime ++ " does not support remote hosts"⟩
    else
      match adapter with
      | none => return some ⟨task, wid, rt, wsPath, sshHost, none⟩
      | some adapter =>
        match ← call (.acquire adapter wid task.resourceReq) with
        | none => return none
        | some lock => return some ⟨task, wid, rt, wsPath, sshHost, some lock⟩

/-- The body of the `try` of the preparation: a busy resource releases the claim. -/
def prepareClaimed (settings : Settings) (task : Task) (wid : WorkerId) :
    Program (Option Dispatch) := do
  match ← resolveDispatch settings task wid with
  | some d => return some d
  | none =>
    let _ ← store (.releaseTaskClaim task.id "QUEUED")
    publishTask task.id
    return none

/-- One round of the preparation. -/
def prepare (settings : Settings) (task : Task) : Program (Option Dispatch) := do
  let wid ← call (.newWorkerId task.id)
  match ← (prepareClaimed settings task wid).attempt with
  | .ok d => return d
  | .error exc =>
    finishFailedClaim task exc.msg (!exc.cls.isKeyOrValueError)
    return none

/-- The dispatches that the preparation of `tasks` leaves. -/
def prepareAll (settings : Settings) : List Task → Program (List Dispatch)
  | [] => pure []
  | task :: tasks => do
    let d ← prepare settings task
    let ds ← prepareAll settings tasks
    return d.toList ++ ds

/-! ## Activation and compensation -/

/-- The worker row of a started dispatch. -/
def Dispatch.worker (d : Dispatch) (h : WorkerHandle) (now : String) : Worker :=
  let pane := match h.handle with
    | .tmux _ _ _ pane _ _ => some pane
    | .popen _ => none
  let sessionUuid := match h.handle with
    | .tmux _ _ _ _ sessionUuid _ => sessionUuid
    | .popen _ => none
  let pid := match h.handle with
    | .tmux _ _ _ _ _ _ => none
    | .popen pid => some pid
  { id := d.workerId, taskId := d.task.id, sessionHandle := pane, sessionUuid := sessionUuid,
    paneId := pane, pid := pid, resourceLockId := d.lock.map Lock.resourceId, startedAt := now }

/-- Register the handle, then commit the activation. -/
def activate (d : Dispatch) (h : WorkerHandle) : Program Unit := do
  let now ← call .now
  call (.register d.task.id (some d.workerId) h)
  let owned ← store (.activateWorker d.task.id (d.worker h now) h.workspace)
  if owned then return ()
  else .throw ⟨.runtimeError, "task " ++ d.task.id ++ " no longer owns its dispatch claim"⟩

/-- Stop the started worker; what the stop raised. -/
def cleanUp (d : Dispatch) (handle : Option WorkerHandle) : Program (Option PyErr) :=
  match handle with
  | none => pure none
  | some h => do
    match ← (call (.stop h (.dispatcher d.workerId))).attempt with
    | .ok () => return none
    | .error exc => return some exc

/-- Drop the handle, if it was registered. -/
def dropHandle (d : Dispatch) (handle : Option WorkerHandle) : Program Unit :=
  match handle with
  | none => pure ()
  | some _ => call (.unregister d.task.id (.dispatcher d.workerId))

/-- The `except` clause of the completion. -/
def compensate (d : Dispatch) (handle : Option WorkerHandle) (exc : PyErr) : Program Unit := do
  let cleanupError ← cleanUp d handle
  dropHandle d handle
  releaseLock d.task d.lock
  match cleanupError with
  | some stopExc =>
    let _ ← (store (.releaseTaskClaim d.task.id "LOST")).attempt
    schedulerEvent d.task.id "dispatch_lost"
      [("reason", .str (exc.msg ++ "; cleanup failed: " ++ stopExc.msg))]
  | none => finishFailedClaim d.task exc.msg (!exc.cls.isKeyOrValueError)

/-- One round of the completion, with the result of the start. -/
def completeDispatch (settings : Settings) (d : Dispatch) (started : Except PyErr WorkerHandle) :
    Program Nat := do
  match started with
  | .error exc =>
    compensate d none exc
    return 0
  | .ok h =>
    match ← (activate d h).attempt with
    | .error exc =>
      compensate d (some h) exc
      return 0
    | .ok () =>
      schedulerEvent d.task.id "dispatched" [("worker_id", .str d.workerId.text)]
      observeDispatched settings d.workerId h
      return 1

/-- The rounds of the completion, in the order in which the starts return. -/
def completeAll (settings : Settings) : Nat → List Dispatch → Program Nat
  | 0, _ => pure 0
  | _ + 1, [] => pure 0
  | n + 1, d :: ds => do
    let (i, started) ← call (.asCompleted (d :: ds))
    let count ← completeDispatch settings ((d :: ds)[i]?.getD d) started
    let rest ← completeAll settings n ((d :: ds).eraseIdx i)
    return count + rest

/-- `for task in claimed: _publish_task(store, task.id)`. -/
def publishTasks : List TaskId → Program Unit
  | [] => pure ()
  | tid :: tids => do
    publishTask tid
    publishTasks tids

/-- `tick`: the number of workers that it activated. -/
def tick (settings : Settings) : Program Nat := do
  call (.makeDirs settings.workspacesRoot)
  let claimed ← store (.claimQueuedTasks settings.maxWorkers)
  publishTasks (claimed.map Task.id)
  let prepared ← prepareAll settings claimed
  completeAll settings prepared.length prepared

/-- The sweep of `loop`: claims that are too old are lost. -/
def sweep : Program Unit := do
  let lost ← store .markStaleDispatchingLost
  publishTasks lost

end Flotilla
