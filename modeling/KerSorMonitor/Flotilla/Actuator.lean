import KerSorMonitor.Flotilla.History

/-!
# Retirement and actuation (`flotilla/actuator.py`)

The programs of the source, over the atomic actions of `World`. A Python `try` is
`Prog.tryCatch`, and a `finally` is `Prog.tryFinally`; every exception of the model is an
`Exception` of the source.
-/

namespace Flotilla

open Keyed Threads
open Prog (call)

/-- The programs of the control plane. -/
abbrev Program := Prog Act PyErr

/-- One store transaction. -/
def store {α : Type} (q : Transaction α) : Program α := call (.store q)

/-- `models.Event(task_id=..., type=..., payload=...)`, stamped by its default factory. -/
def newEvent (tid : TaskId) (type : String) (payload : JsonObj) : Program Event := do
  let ts ← call .now
  return ⟨tid, type, payload, ts⟩

/-- `store.append_event(models.Event(...))`. -/
def recordEvent (tid : TaskId) (type : String) (payload : JsonObj) : Program Unit := do
  let e ← newEvent tid type payload
  store (.appendEvent e)

/-- `store.get_worker(worker_id) if worker_id else None`. -/
def getWorker? (wid : Option WorkerId) : Program (Option Worker) :=
  match wid with
  | none => pure none
  | some w => store (.getWorker w)

/-- `if worker_id: store.end_worker(worker_id)`. -/
def endWorker? (wid : Option WorkerId) : Program Unit :=
  match wid with
  | none => pure ()
  | some w => store (.endWorker w)

/-- A text that is present and not empty. -/
def nonEmpty? : Option String → Option String
  | some s => if s = "" then none else some s
  | none => none

/-- `str(Path(text))`, for a text in normal form. -/
def pathText (s : String) : String := if s = "" then "." else s

/-- The body of the `try` of `_evaluation_event`: the result of a configured evaluator. -/
def evaluateLocally (task : Task) (name : String) (handle : Option WorkerHandle) :
    Program EvalResult := do
  if (nonEmpty? task.targetHost).isSome then
    .throw ⟨.runtimeError, "configured evaluator cannot access a remote workspace"⟩
  else
    let workspace := pathText
      ((nonEmpty? task.workspacePath).getD ((handle.map WorkerHandle.workspace).getD ""))
    let exists' ← call (.isDir workspace)
    if !exists' then
      .throw ⟨.runtimeError, "evaluator workspace does not exist: " ++ workspace⟩
    else
      let name ← Prog.ofExcept (Evaluator.get name)
      call (.evaluate name task workspace)

/-- The payload and the state for what the evaluator returned or raised. -/
def evaluationOutcome (name : String) : Except PyErr EvalResult → String × JsonObj
  | .ok result =>
    (if result.passed then "DONE" else "FAILED",
      [("evaluator", .str name), ("passed", .bool result.passed), ("score", result.score),
       ("detail", .str result.detail), ("artifacts", .arr (result.artifacts.map .str))])
  | .error exc =>
    ("FAILED",
      [("evaluator", .str name), ("passed", .bool false), ("score", .float (.dec 0 0)),
       ("error", .str exc.msg)])

/-- `_evaluation_event`: run a configured local evaluator and return the gated terminal state
and its event. -/
def evaluationEvent (task : Task) (handle : Option WorkerHandle) :
    Program (String × Option Event) :=
  match nonEmpty? task.evaluator with
  | none => pure ("DONE", none)
  | some name => do
    let result ← (evaluateLocally task name handle).attempt
    let e ← newEvent task.id "evaluation" (evaluationOutcome name result).2
    return ((evaluationOutcome name result).1, some e)

/-- `retire(..., "STUCK")`: the worker stays, so that a nudge can resume the task. -/
def retireStuck (tid : TaskId) : Program (Option String) := do
  match ← store (.getTask tid) with
  | none => return none
  | some task =>
    if task.state = .stuck then return none
    else
      let _ ← store (.setTaskState tid "STUCK" (some [.running, .paused, .stuck]))
      return some "STUCK"

/-- The stop inside `retire`: a failure is recorded and ignored. -/
def stopForRetire (tid : TaskId) (wid : Option WorkerId) (stopRuntime : Bool)
    (handle : Option WorkerHandle) : Program Unit :=
  match stopRuntime, handle with
  | true, some h =>
    (call (.stop h (.retirement tid wid))).tryCatch fun exc =>
      (recordEvent tid "worker_stop_warning" [("error", .str exc.msg)]).ignoring
  | _, _ => pure ()

/-- `resource.get(kind)`, on whatever the requirements hold under `kind`. -/
def resourceGet (kind : Json) : Except PyErr String :=
  match kind with
  | .str s => Resource.get s
  | .arr _ => .error ⟨.typeError, "unhashable type: 'list'"⟩
  | .obj _ => .error ⟨.typeError, "unhashable type: 'dict'"⟩
  | v => .error (keyError
      ("unknown resource kind: " ++ v.pyStr ++ "; registered: " ++ pyReprList Resource.registry))

/-- `resource.get(kind).release_id(lock_id)`, on behalf of worker `wid`. -/
def releaseLease (kind : Json) (lockId : String) (wid : WorkerId) : Program Unit := do
  let kind ← Prog.ofExcept (resourceGet kind)
  call (.releaseId kind lockId wid)

/-- The release inside `retire`: a failure is recorded and ignored. -/
def releaseForRetire (task : Task) (tid : TaskId) (worker : Option Worker) : Program Unit :=
  match worker with
  | none => pure ()
  | some w =>
    match nonEmpty? w.resourceLockId, (task.resourceReq.get? "kind").filter Json.truthy with
    | some lockId, some kind =>
      (releaseLease kind lockId w.id).tryCatch fun exc =>
        (recordEvent tid "resource_release_failed"
          [("resource_id", .str lockId), ("error", .str exc.msg)]).ignoring
    | _, _ => pure ()

/-- The end of `retire`, after the terminal state or the end of the worker is committed. -/
def concludeRetire (task : Task) (tid : TaskId) (wid : Option WorkerId) (worker : Option Worker)
    (result : Option String) : Program (Option String) := do
  releaseForRetire task tid worker
  call (.unregister tid (.retirement tid wid))
  return result

/-- The terminal state that `retire` commits, and its event: `DONE` is gated by the evaluator,
and a task that is already terminal keeps its state. -/
def gateTerminal (task : Task) (terminal : Option String) (handle : Option WorkerHandle) :
    Program (Option String × Option Event) :=
  if task.state.isTerminal then pure (none, none)
  else if terminal = some "DONE" then do
    let (state, event) ← evaluationEvent task handle
    return (some state, event)
  else pure (terminal, none)

/-- The commit inside `retire`. -/
def commitRetire (task : Task) (tid : TaskId) (wid : Option WorkerId) (worker : Option Worker)
    (terminal : Option String) (handle : Option WorkerHandle) : Program (Option String) := do
  let (finalState, event) ← gateTerminal task terminal handle
  match nonEmpty? finalState with
  | some state =>
    let committed ← store (.finishWorker tid wid state event)
    if committed then
      concludeRetire task tid wid worker (if task.state.isTerminal then none else some state)
    else return none
  | none =>
    endWorker? wid
    concludeRetire task tid wid worker none

/-- The part of `retire` under `_RETIRING`. -/
def retireBody (tid : TaskId) (wid : Option WorkerId) (terminal : Option String)
    (stopRuntime : Bool) (handle : Option WorkerHandle) : Program (Option String) := do
  let worker ← getWorker? wid
  match ← store (.getTask tid) with
  | none =>
    call (.unregister tid (.retirement tid wid))
    return none
  | some task =>
    if task.state.isTerminal && !(worker.any Worker.isActive) then
      call (.unregister tid (.retirement tid wid))
      return none
    else
      stopForRetire tid wid stopRuntime handle
      commitRetire task tid wid worker terminal handle

/-- `retire`: idempotently retire a worker and release its lease. -/
def retire (tid : TaskId) (wid : Option WorkerId) (terminal : Option String)
    (stopRuntime : Bool) : Program (Option String) :=
  if terminal = some "STUCK" then retireStuck tid
  else do
    match ← call (.beginRetire tid) with
    | none => return none
    | some handle =>
      (retireBody tid wid terminal stopRuntime handle).tryFinally (call (.endRetire tid))

/-- What `actuate` reports: `{"ok": True}`, or the reason. -/
abbrev Actuated := Except String Unit

/-- `actuate(..., "nudge")`. -/
def actuateNudge (tid : TaskId) (h : WorkerHandle) (payload : JsonObj) : Program Actuated := do
  match ← (call (.paste h ((payload.get? "text").getD (.str "")))).attempt with
  | .error exc => return .error ("nudge failed: " ++ exc.msg)
  | .ok () =>
    match ← store (.getTask tid) with
    | none => return .ok ()
    | some task =>
      if task.state = .stuck then
        let _ ← store (.setTaskState tid "RUNNING" (some [.stuck]))
        return .ok ()
      else return .ok ()

/-- `actuate(..., "stop")`. -/
def actuateStop (tid : TaskId) (wid : Option WorkerId) (h : WorkerHandle) : Program Actuated := do
  match ← (call (.stop h (.actuation tid))).attempt with
  | .error exc => return .error ("stop failed: " ++ exc.msg)
  | .ok () =>
    let finalState ← retire tid wid (some "CANCELLED") false
    if finalState = some "CANCELLED" then return .ok ()
    else
      let task ← store (.getTask tid)
      let worker ← getWorker? wid
      if (task.any fun t => t.state.isTerminal) && !(worker.any Worker.isActive) then
        return .ok ()
      else return .error "task could not be cancelled"

/-- The `try` of `actuate(..., "pause")` and `actuate(..., "resume")`. -/
def switchWorker (tid : TaskId) (h : WorkerHandle) (pause : Bool) : Program Bool := do
  call (if pause then Act.pauseWorker h else Act.resumeWorker h)
  store (.setTaskState tid (if pause then "PAUSED" else "RUNNING")
    (some [if pause then .running else .paused]))

/-- `actuate(..., "pause")` and `actuate(..., "resume")`. -/
def actuateSwitch (tid : TaskId) (h : WorkerHandle) (rt : RuntimeAdapter) (pause : Bool) :
    Program Actuated := do
  let action := if pause then "pause" else "resume"
  if !(if pause then rt.hasPause else rt.hasResume) then
    return .error ("runtime " ++ h.backend ++ " does not support " ++ action)
  else
    match ← (switchWorker tid h pause).attempt with
    | .error exc => return .error (action ++ " failed: " ++ exc.msg)
    | .ok false => return .error ("task is not " ++ (if pause then "RUNNING" else "PAUSED"))
    | .ok true => return .ok ()

/-- `actuate`. -/
def actuate (tid : TaskId) (action : String) (payload : JsonObj) : Program Actuated := do
  match ← call (.runningHandle tid) with
  | none => return .error "no live worker handle for task"
  | some (wid, h) =>
    let rt ← Prog.ofExcept (Runtime.get h.backend)
    if action = "nudge" then actuateNudge tid h payload
    else if action = "stop" then actuateStop tid wid h
    else if action = "pause" then actuateSwitch tid h rt true
    else if action = "resume" then actuateSwitch tid h rt false
    else return .error ("unknown action " ++ action)

end Flotilla
