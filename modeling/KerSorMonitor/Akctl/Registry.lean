import KerSorMonitor.Lib.Keyed
import Mathlib.Data.String.Basic

/-!
# The registry of the control plane (`scripts/install-autokaggle-control.py`)

The installed `akctl` keeps its tasks in `registry.json`. A task is active unless it is a smoke task
or has reached a terminal state; its state is that of the `status.json` in its workspace, or else the
one in the record.

Result: `mem_occupiedSlots`, which places are taken.
-/

namespace Akctl

open Keyed

/-! ## Records -/

abbrev TaskId := String

/-- A tmux pane, as `start_window` identifies it. -/
structure Pane where
  paneId : String
  windowName : String
  deriving DecidableEq, Repr

/-- What `int` makes of `gpu.index` and `gpu.slot`, if anything. -/
structure GpuField where
  index : Option Int
  slot : Option Int
  deriving DecidableEq, Repr

/-- The `loop` of a monitor. -/
structure MonitorLoop where
  intervalMinutes : Int
  submission : String
  deriving DecidableEq, Repr

structure Monitor where
  mode : String
  worker : Option Pane
  loop : Option MonitorLoop
  deriving DecidableEq, Repr

structure Cleanup where
  reason : String
  killedWindows : List String
  deriving DecidableEq, Repr

/-- A task record. -/
structure Record where
  workspace : String
  smoke : Bool
  gpu : GpuField
  worker : Option Pane
  monitor : Monitor
  status : Option String
  statusReason : Option String
  cleanup : Option Cleanup
  deriving DecidableEq, Repr

/-- The `orchestrator` section. -/
structure Orchestrator where
  window : Option String
  worker : Option Pane
  loop : Option MonitorLoop
  stopReason : Option String
  cleanup : Option Cleanup
  deriving DecidableEq, Repr

structure Registry where
  tasks : Dict TaskId Record
  orchestrator : Option Orchestrator
  deriving DecidableEq

/-! ## Tasks -/

/-- A task of `tasks.yaml`. -/
structure Task where
  id : TaskId
  problemDir : String
  deriving DecidableEq, Repr

/-- What the installation fixes: the tasks, `str.upper`, the paths of the workspaces, and the
defaults of the monitors. -/
structure Installation where
  tasks : List Task
  upper : String → String
  workspacePath : Task → String
  smokeWorkspacePath : Task → String
  defaultMonitorMode : String
  monitorInterval : Int

/-- `find_task`; it raises if there is none. -/
def findTask (inst : Installation) (taskId : String) : Option Task :=
  inst.tasks.find? fun task => inst.upper task.id = inst.upper taskId

theorem findTask_id {taskId : String} {task : Task} (h : findTask inst taskId = some task) :
    findTask inst task.id = some task := by
  have hid : inst.upper task.id = inst.upper taskId := by simpa using List.find?_some h
  rw [findTask, hid]
  exact h

structure Gpu where
  index : Int
  uuid : String
  deriving DecidableEq, Repr

/-- The record of a new task. -/
def newRecord (inst : Installation) (task : Task) (gpu : Gpu) (slot : Nat) (mode : String)
    (worker : Option Pane) : Record where
  workspace := inst.workspacePath task
  smoke := false
  gpu := ⟨some gpu.index, some slot⟩
  worker := worker
  monitor := ⟨mode, none, none⟩
  status := none
  statusReason := none
  cleanup := none

def Registry.setTask (registry : Registry) (tid : TaskId) (record : Record) : Registry :=
  { registry with tasks := Dict.set registry.tasks tid record }

theorem get?_setTask (registry : Registry) (tid tid' : TaskId) (record : Record) :
    Dict.get? (registry.setTask tid record).tasks tid' =
      if tid' = tid then some record else Dict.get? registry.tasks tid' :=
  Dict.get?_set registry.tasks tid tid' record

/-! ## Status -/

/-- What a `status.json` holds: `state` is its state, if it has one. -/
inductive StatusFile
  | absent
  | unreadable
  | state (s : Option String)
  deriving DecidableEq, Repr

/-- The status files of the workspaces. -/
abbrev Files := String → StatusFile

/-- `x or "unknown"`. -/
def orUnknown : Option String → String
  | some s => if s = "" then "unknown" else s
  | none => "unknown"

def taskStatus (files : Files) (record : Record) : String :=
  match files record.workspace with
  | .state s => orUnknown s
  | .absent | .unreadable => orUnknown record.status

/-- `TERMINAL_STATES`. -/
def terminalStates : List String :=
  ["promoted", "solution_validated", "complete", "cancelled", "abandoned", "crashed", "failed",
    "error", "smoke_ready", "smoke_failed"]

/-! ## Active records -/

/-- Whether `active_registry_records` has the record. -/
def Record.active (files : Files) (record : Record) : Bool :=
  !record.smoke && decide (taskStatus files record ∉ terminalStates)

/-- The total of `active_counts`. -/
def activeTotal (files : Files) (tasks : Dict TaskId Record) : Nat :=
  tasks.count fun e => e.2.active files

/-- The count of a GPU in `active_counts`. -/
def activeOn (files : Files) (tasks : Dict TaskId Record) (gpu : Int) : Nat :=
  tasks.count fun e => e.2.active files && e.2.gpu.index = some gpu

/-- The place of a record, if `int` makes sense of it. -/
def GpuField.place? (gpu : GpuField) : Option (Int × Int) :=
  match gpu.index, gpu.slot with
  | some index, some slot => some (index, slot)
  | _, _ => none

/-- `occupied_slots`. -/
def occupiedSlots (files : Files) (tasks : Dict TaskId Record) : List (Int × Int) :=
  tasks.rows.filterMap fun e => if e.2.active files then e.2.gpu.place? else none

theorem mem_occupiedSlots {files : Files} {tasks : Dict TaskId Record} {place : Int × Int} :
    place ∈ occupiedSlots files tasks ↔ ∃ tid record, Dict.get? tasks tid = some record ∧
      record.active files = true ∧ record.gpu.place? = some place := by
  unfold occupiedSlots
  rw [List.mem_filterMap]
  constructor
  · rintro ⟨⟨tid, record⟩, hrow, hplace⟩
    split at hplace
    · next hactive => exact ⟨tid, record, Dict.mem_rows_iff.mp hrow, hactive, hplace⟩
    · cases hplace
  · rintro ⟨tid, record, hget, hactive, hplace⟩
    exact ⟨(tid, record), Dict.mem_rows_iff.mpr hget, by rw [if_pos hactive]; exact hplace⟩

section Examples

def twoTasks : Installation where
  tasks := [⟨"A", "a"⟩, ⟨"B", "b"⟩]
  upper := id
  workspacePath task := "workspaces/" ++ task.id
  smokeWorkspacePath task := "workspaces/smoke-" ++ task.id
  defaultMonitorMode := "active"
  monitorInterval := 20

/-- Task `A` is active at slot 0 of GPU 0. -/
def oneActive : Registry where
  tasks := Dict.set Table.empty "A" (newRecord twoTasks ⟨"A", "a"⟩ ⟨0, "GPU-0"⟩ 0 "active" none)
  orchestrator := none

end Examples

end Akctl
