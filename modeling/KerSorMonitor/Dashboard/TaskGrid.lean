import KerSorMonitor.Dashboard.TaskState
import KerSorMonitor.Lib.Machine

/-!
# The task grid (`dashboard/src/components/TaskGrid.tsx`)

The grid subscribes to the live events of a project, and then asks the server for its tasks. It
keeps the events that arrive before this first response, and afterwards asks the server again
about each id that it does not know.

`Grid` has the mutable collections of the effect with its callbacks, and `World` puts it together
with the server, the stream of live events and the calls that are on their way.
-/

namespace Dashboard

open Keyed

/-! ## The effect -/

/-- The collections of the effect, and the tasks that are displayed. -/
structure Grid where
  tasks : TaskMap
  deleted : Finset TaskId
  known : Finset TaskId
  buffered : List TaskTelemetry
  unknown : Dict TaskId TaskTelemetry
  resolvingUnknown : Finset TaskId
  loaded : Bool

/-- A call of `listTasks`. -/
inductive Call
  /-- The call of the effect. -/
  | load
  /-- The call of `confirmUnknownTask`. -/
  | confirm (id : TaskId)
  deriving DecidableEq, Repr

namespace Grid

/-- The grid when its effect starts. -/
def start : Grid := ⟨Table.empty, ∅, ∅, [], Table.empty, ∅, false⟩

/-- `confirmUnknownTask`, with the call that it makes. -/
def confirmUnknownTask (g : Grid) (id : TaskId) : Grid × Option Call :=
  if id ∈ g.resolvingUnknown then (g, none)
  else ({ g with resolvingUnknown := insert id g.resolvingUnknown }, some (.confirm id))

/-- `onLive` for a tombstone. -/
def onTombstone (g : Grid) (live : TaskTelemetry) : Grid :=
  let deleted := insert live.id g.deleted
  { g with
    deleted := deleted
    known := g.known.erase live.id
    unknown := Dict.pop g.unknown live.id
    tasks := mergeKnownTask g.tasks live deleted }

/-- Keep an event until the tasks are loaded; the oldest of 1000 events is dropped. -/
def buffer (g : Grid) (live : TaskTelemetry) : Grid :=
  { g with buffered := (if 1000 ≤ g.buffered.length then g.buffered.tail else g.buffered) ++ [live] }

def onLive (g : Grid) (live : TaskTelemetry) : Grid × Option Call :=
  if live.deleted then (g.onTombstone live, none)
  else if live.id ∈ g.deleted then (g, none)
  else if g.loaded = false then (g.buffer live, none)
  else if live.id ∉ g.known then
    ({ g with unknown := Dict.set g.unknown live.id live } : Grid).confirmUnknownTask live.id
  else ({ g with tasks := mergeKnownTask g.tasks live g.deleted }, none)

/-- The response to the call of the effect. -/
def onLoaded (g : Grid) (records : List Task) : Grid :=
  let deleted := g.deleted ∪ ((g.buffered.filter TaskTelemetry.deleted).map TaskTelemetry.id).toFinset
  let next := reconcileTaskSnapshot records g.buffered deleted
  { g with
    deleted := deleted
    tasks := next
    known := g.known ∪ (next.rows.map fun e => e.2.id).toFinset
    loaded := true }

/-- What the response to a confirmation does to the tasks. -/
def resolve (g : Grid) (id : TaskId) (records : List Task) : Grid :=
  if id ∈ g.deleted then g
  else
    match records.find? fun task => task.id = id, Dict.get? g.unknown id with
    | some record, some telemetry =>
      { g with
        known := insert id g.known
        tasks := Dict.set g.tasks id (enrichTask record telemetry)
        unknown := Dict.pop g.unknown id }
    | _, _ => g

/-- The `finally` of `confirmUnknownTask`. -/
def resolved (g : Grid) (id : TaskId) : Grid :=
  { g with resolvingUnknown := g.resolvingUnknown.erase id }

def onResponse (g : Grid) (call : Call) (records : List Task) : Grid :=
  match call with
  | .load => g.onLoaded records
  | .confirm id => (g.resolve id records).resolved id

/-- A call has failed. -/
def onFailed (g : Grid) (call : Call) : Grid :=
  match call with
  | .load => g
  | .confirm id => g.resolved id

/-- `removeTask`, after its `deleteTask` has succeeded. -/
def removeTask (g : Grid) (tid : TaskId) : Grid :=
  { g with
    deleted := insert tid g.deleted
    known := g.known.erase tid
    unknown := Dict.pop g.unknown tid
    tasks := Dict.pop g.tasks tid }

end Grid

/-! ## The grid and its server -/

/-- The state. `owed` are the events of changes that the server has committed and not published,
and `stream` are the published events that are not delivered, in order. A call that the server has
answered has the records of its response.

`listed`, `delivered` and `removed` are ghost: the ids of the records that were received, the events
that were delivered, and the tasks that were deleted here. -/
structure World where
  server : Table Task.id
  owed : List TaskTelemetry
  stream : List TaskTelemetry
  grid : Grid
  calls : Dict Call (Option (List Task))
  listed : List TaskId
  delivered : List TaskTelemetry
  removed : List TaskId

inductive Event
  /-- The server adds a task, of which it will publish an event. -/
  | create (record : Task) (live : TaskTelemetry)
  /-- The server changes what it lists of a task. -/
  | change (record : Task)
  /-- The server deletes a task, of which it will publish a tombstone. -/
  | delete (id : TaskId)
  /-- The server publishes an event: one that it owes, or a refresh or replay of any age. -/
  | publish (live : TaskTelemetry)
  /-- The next event of the stream is delivered. -/
  | deliver
  /-- The server answers a call. -/
  | answer (call : Call)
  /-- The response to a call arrives. -/
  | respond (call : Call)
  /-- A call fails. -/
  | fail (call : Call)
  /-- The `deleteTask` of `removeTask` returns. -/
  | removeTask (tid : TaskId)

/-- The tombstone of a task. -/
def TaskTelemetry.tombstone (id : TaskId) : TaskTelemetry := ⟨id, true, none, none, none, Table.empty⟩

namespace World

/-- The effect starts: it has subscribed, and calls `listTasks`. -/
def mount (server : Table Task.id) (owed stream : List TaskTelemetry) : World :=
  ⟨server, owed, stream, .start, Dict.set Table.empty .load none, [], [], []⟩

/-- A call of `listTasks` goes out. -/
def request (w : World) : Option Call → World
  | some call => { w with calls := Dict.set w.calls call none }
  | none => w

def create (w : World) (record : Task) (live : TaskTelemetry) : World :=
  if h : w.server.Has record.id then w
  else { w with
    server := w.server.insert record h
    owed := w.owed ++ [{ live with id := record.id, deleted := false }] }

def delete (w : World) (id : TaskId) : World :=
  if w.server.Has id then { w with
    server := w.server.deleteWhere fun record => record.id = id
    owed := w.owed ++ [.tombstone id] }
  else w

def deliver (w : World) : World :=
  match w.stream with
  | [] => w
  | live :: stream =>
    let (grid, call) := w.grid.onLive live
    ({ w with grid := grid, stream := stream, delivered := w.delivered ++ [live] } : World).request call

def answer (w : World) (call : Call) : World :=
  match Dict.get? w.calls call with
  | some none => { w with calls := Dict.set w.calls call (some w.server.rows) }
  | _ => w

def respond (w : World) (call : Call) : World :=
  match Dict.get? w.calls call with
  | some (some records) => { w with
      grid := w.grid.onResponse call records
      calls := Dict.pop w.calls call
      listed := w.listed ++ records.map Task.id }
  | _ => w

def fail (w : World) (call : Call) : World :=
  match Dict.get? w.calls call with
  | some _ => { w with grid := w.grid.onFailed call, calls := Dict.pop w.calls call }
  | none => w

def step : Event → World → World
  | .create record live, w => w.create record live
  | .change record, w =>
    { w with server := w.server.update record.id (fun _ => record) fun _ h => h.symm }
  | .delete id, w => w.delete id
  | .publish live, w => { w with owed := w.owed.erase live, stream := w.stream ++ [live] }
  | .deliver, w => w.deliver
  | .answer call, w => w.answer call
  | .respond call, w => w.respond call
  | .fail call, w => w.fail call
  | .removeTask tid, w =>
    { w with grid := w.grid.removeTask tid, removed := w.removed ++ [tid] }

/-- The world after the events. -/
abbrev run (events : List Event) (w : World) : World := Machine.run step events w

/-! ## What has happened -/

/-- A record or a live event of the task was received. -/
def Received (w : World) (id : TaskId) : Prop :=
  id ∈ w.listed ∨ ∃ live ∈ w.delivered, live.id = id ∧ live.deleted = false

/-- A tombstone of the task was received. -/
def Tombstoned (w : World) (id : TaskId) : Prop :=
  ∃ live ∈ w.delivered, live.id = id ∧ live.deleted = true

/-- The task is displayed. -/
def Shown (w : World) (id : TaskId) : Prop := (Dict.get? w.grid.tasks id).isSome

/-- An event of the task is on its way. -/
def Awaited (w : World) (id : TaskId) : Prop := ∃ live ∈ w.owed ++ w.stream, live.id = id

end World

end Dashboard
