import KerSorMonitor.Flotilla.Actuator

/-!
# Observation (`flotilla/observer.py`, `sinks.normalize_status_record`)

One observation of a worker, and the patrol `observe_running` over a snapshot of the handle
registry. What a worker wrote is an arbitrary text file; `loadStatus` says which contents
raise.
-/

namespace Flotilla

open Keyed Threads
open Prog (call)

/-! ## Status records -/

/-- `text[:limit]`. -/
def takeChars (limit : Nat) (s : String) : String := String.ofList (s.toList.take limit)

/-- `text[-limit:]`. -/
def lastChars (limit : Nat) (s : String) : String :=
  String.ofList (s.toList.drop (s.toList.length - limit))

/-- `needle in text`. -/
def containsText (needle : List Char) : List Char → Bool
  | [] => needle.isEmpty
  | c :: cs => needle.isPrefixOf (c :: cs) || containsText needle cs

/-- The value that `float(value)` has when it is finite; integers from `2 ^ 1024 - 2 ^ 970` on
overflow. -/
def finiteFloat? : Json → Option PyFloat
  | .int n => if n.natAbs < Nat.pow 2 1024 - Nat.pow 2 970 then some (.dec n 0) else none
  | .float (.dec m e) => some (.dec m e)
  | _ => none

/-- The value of a counter that is an `int` within its bound, else `0`. -/
def boundedCount (maximum : Int) : Json → Json
  | .int n => if 0 ≤ n ∧ n ≤ maximum then .int n else .int 0
  | _ => .int 0

/-- `rounds`, `candidates` and `tokens` with their bounds. -/
def countLimits : List (String × Int) :=
  [("rounds", 10000000), ("candidates", 10000000), ("tokens", 1000000000000000)]

/-- `string_limits`, with `nullable` in the last component. -/
def stringLimits : List (String × Nat × Bool) :=
  [("status_state", 64, true), ("best_candidate", 1024, true), ("timestamp", 128, false),
   ("pane_tail", 16384, false), ("session_uuid", 256, true), ("last_activity", 2048, false),
   ("last_tool", 256, true), ("source", 128, true)]

/-- `normalize_status_record`. -/
def normalizeStatusRecord (source : JsonObj) : JsonObj :=
  let speedup := match (source.get? "speedup").bind finiteFloat? with
    | some f => Json.float f
    | none => .null
  let result := source.set "speedup" speedup
  let result := countLimits.foldl (fun result (key, maximum) =>
    match source.get? key with
    | none => result
    | some v => result.set key (boundedCount maximum v)) result
  let result := stringLimits.foldl (fun result (key, limit, nullable) =>
    result.set key (match source.get? key with
      | some (.str s) => .str (takeChars limit s)
      | _ => if nullable then .null else .str "")) result
  result.set "exited" (.bool ((source.get? "exited").any Json.truthy))

/-! ## The worker's status -/

def successStatusStates : List String := ["promoted", "complete", "archived"]

def stuckStatusStates : List String := ["stuck", "stalled"]

def failedStatusStates : List String := ["abandoned", "failed", "crashed"]

def terminalStatusStates : List String :=
  successStatusStates ++ stuckStatusStates ++ failedStatusStates

def statusMaxBytes : Nat := 1024 * 1024

/-- `str.lower` of one character, as far as the result can be an ASCII letter: U+212A is the
one character outside ASCII that lowers to one. -/
def lowerChar (c : Char) : Char := if c.toNat = 0x212A then 'k' else c.toLower

/-- `str.lower`. -/
def pyLower (s : String) : String := String.ofList (s.toList.map lowerChar)

/-- `status = json.loads(p.read_text())`, with the size check and the `except` clause: absent
files, oversized files and invalid JSON read as `{}`; a decoding error, an over-long integer
and too deep a nesting are raised. -/
def loadStatus (limits : PyJson.Limits) : StatusFile → Except PyErr JsonObj
  | .missing => .ok []
  | .content bytes =>
    if bytes.length ≤ statusMaxBytes then
      match PyJson.readText bytes with
      | .error e => .error e
      | .ok text =>
        match PyJson.loads limits text with
        | .ok (.obj status) => .ok status
        | .ok _ => .ok []
        | .error e => if e.cls = .jsonDecodeError then .ok [] else .error e
    else .ok []

/-- `_map_terminal`. -/
def mapTerminal (statusState : Option String) (exited : Bool) (paneTail : String) :
    Option String :=
  let isIn (states : List String) := statusState.any fun s => states.contains s
  if isIn successStatusStates then some "DONE"
  else if isIn stuckStatusStates then some "STUCK"
  else if isIn failedStatusStates then some "FAILED"
  else if exited then some "FAILED"
  else if ["clear to save", "100% context used", "Final session result"].any
      (fun s => containsText s.toList paneTail.toList) then some "DONE"
  else none

/-- `_map_terminal` of a normalised record. -/
def recordTerminal (record : JsonObj) : Option String :=
  mapTerminal ((record.get? "status_state").bind Json.str?)
    ((record.get? "exited").any Json.truthy)
    (((record.get? "pane_tail").bind Json.str?).getD "")

/-! ## One observation -/

/-- `h.get("host")`, if it is there and not empty. -/
def WorkerHandle.host? (h : WorkerHandle) : Option String :=
  match h.handle with
  | .tmux host _ _ _ _ _ => nonEmpty? host
  | .popen _ => none

/-- The record of a remote observation, before the session id. -/
def remoteRecord (obs : Except PyErr Observation) : JsonObj :=
  match obs with
  | .ok obs =>
    [("status_state", obs.state), ("speedup", obs.speedup), ("rounds", obs.rounds),
     ("candidates", .int 0), ("best_candidate", obs.bestCandidate), ("timestamp", .str ""),
     ("pane_tail", .str (lastChars 300 obs.paneTail))]
  | .error _ =>
    [("status_state", .str "running"), ("speedup", .null), ("rounds", .int 0),
     ("candidates", .int 0), ("best_candidate", .null), ("timestamp", .str ""),
     ("pane_tail", .str "")]

/-- The session id of a remote worker, mined once. -/
def mineRemote (wid : Option WorkerId) (h : WorkerHandle) : Program (Option String) := do
  match ← getWorker? wid with
  | none => return none
  | some w =>
    if (nonEmpty? w.sessionUuid).isSome then return none
    else
      match nonEmpty? (← call (.mineSessionUuid h)) with
      | none => return none
      | some uuid =>
        store (.setWorkerSessionUuid w.id uuid)
        return some uuid

/-- The remote branch of `observe_and_record`: the record and whether the worker has exited. -/
def observeRemote (wid : Option WorkerId) (h : WorkerHandle) (rt : RuntimeAdapter) :
    Program (JsonObj × Bool) := do
  let obs ← (call (.observe h)).attempt
  let record := remoteRecord obs
  let exited := match obs with
    | .ok obs => obs.exited
    | .error _ => false
  if rt.minesSessionUuid then
    match ← (mineRemote wid h).attempt with
    | .ok (some uuid) => return (record.set "session_uuid" (.str uuid), exited)
    | _ => return (record, exited)
  else return (record, exited)

/-- The record that the status file gives. -/
def localRecord (status : JsonObj) (candidates : Nat) : JsonObj :=
  [("status_state", (status.get? "state").getD (.str "running")),
   ("speedup", (status.get? "speedup").getD .null),
   ("rounds", (status.get? "rounds").getD (.int 0)),
   ("candidates", .int candidates),
   ("timestamp", (status.get? "timestamp").getD (.str "")),
   ("pane_tail", .str "")]

/-- `str(status.get("state") or "").lower()`. -/
def statusStateText (status : JsonObj) : String :=
  match (status.get? "state").filter Json.truthy with
  | some v => pyLower v.pyStr
  | none => ""

/-- What the observation of the runtime adds to the record of a local worker: the file keeps
its authority when it declares a terminal state. -/
def adoptObservation (status record : JsonObj) (obs : Observation) : JsonObj :=
  let record := record.set "pane_tail" (.str (lastChars 300 obs.paneTail))
  let record :=
    if terminalStatusStates.contains (statusStateText status) then record
    else record.set "status_state" obs.state
  record.update obs.extra

/-- The session id of a local worker: recorded, or mined. -/
def mineLocal (wid : Option WorkerId) (h : WorkerHandle) : Program (Option String) := do
  let w ← getWorker? wid
  match w.bind fun w => nonEmpty? w.sessionUuid with
  | some uuid => return some uuid
  | none =>
    match nonEmpty? (← call (.mineSessionUuid h)) with
    | none => return none
    | some uuid =>
      match w with
      | none => return some uuid
      | some w =>
        store (.setWorkerSessionUuid w.id uuid)
        return some uuid

/-- The rich activity of a local session. -/
def addActivity (wid : Option WorkerId) (h : WorkerHandle) (record : JsonObj) :
    Program JsonObj := do
  match ← (mineLocal wid h).attempt with
  | .ok (some uuid) =>
    let record := record.set "session_uuid" (.str uuid)
    match ← (call (.sessionActivity h.workspace uuid)).attempt with
    | .ok (some activity) => return record.update activity
    | _ => return record
  | _ => return record

/-- The local branch of `observe_and_record`. -/
def observeLocal (settings : Settings) (wid : Option WorkerId) (h : WorkerHandle)
    (rt : RuntimeAdapter) : Program (JsonObj × Bool) := do
  let file ← call (.readStatus h.workspace)
  let status ← Prog.ofExcept (loadStatus settings.limits file)
  let candidates ← call (.candidateCount h.workspace)
  let record := localRecord status candidates
  let obs ← (call (.observe h)).attempt
  let (record, exited) := match obs with
    | .ok obs => (adoptObservation status record obs, obs.exited)
    | .error _ => (record, false)
  if rt.minesSessionUuid then
    let record ← addActivity wid h record
    return (record, exited)
  else return (record, exited)

/-- The two branches of `observe_and_record`. -/
def observeWorker (settings : Settings) (wid : Option WorkerId) (h : WorkerHandle)
    (rt : RuntimeAdapter) : Program (JsonObj × Bool) :=
  if h.host?.isSome then observeRemote wid h rt else observeLocal settings wid h rt

/-- `observe_and_record`. -/
def observeAndRecord (settings : Settings) (wid : Option WorkerId) (h : WorkerHandle)
    (publish : Bool) : Program JsonObj := do
  let rt ← Prog.ofExcept (Runtime.get h.backend)
  let (record, exited) ← observeWorker settings wid h rt
  let record := normalizeStatusRecord (record.set "exited" (.bool exited))
  recordEvent h.taskId "status" record
  if publish then
    call (.publish (.current h.taskId (some record)))
    return record
  else return record

/-! ## The patrol -/

/-- The first part of one round of `observe_running`: whether the worker is still running, and
the record of the observation. -/
def observeEntry (settings : Settings) (tid : TaskId) (wid : Option WorkerId)
    (h : WorkerHandle) : Program (Bool × JsonObj) := do
  let record ← observeAndRecord settings wid h false
  match recordTerminal record with
  | none => return (true, record)
  | some terminal =>
    let committed ← retire tid wid (some terminal) true
    match committed with
    | none => return (false, record)
    | some state =>
      recordEvent tid "terminal" [("state", .str state)]
      return (false, record)

/-- Publish the task as it is now. -/
def publishEntry (tid : TaskId) (status : Option JsonObj) : Program Unit := do
  match ← store (.getTask tid) with
  | none => return ()
  | some task => call (.publish (.task task status))

/-- One round of `observe_running`; an exception ends the round only. -/
def observeRound (settings : Settings) (tid : TaskId) (entry : HandleEntry) : Program Nat := do
  match ← (observeEntry settings tid entry.1 entry.2).attempt with
  | .error _ => return 0
  | .ok (still, record) =>
    (publishEntry tid (some record)).ignoring
    return if still then 1 else 0

/-- The rounds of `observe_running`. -/
def observeRounds (settings : Settings) : List (TaskId × HandleEntry) → Program Nat
  | [] => pure 0
  | (tid, entry) :: entries => do
    let n ← observeRound settings tid entry
    let m ← observeRounds settings entries
    return n + m

/-- `observe_running`: the number of workers that are still running. -/
def observeRunning (settings : Settings) : Program Nat := do
  let entries ← call .handlesSnapshot
  observeRounds settings entries

end Flotilla
