import KerSorMonitor.Lib.Threads
import KerSorMonitor.Akctl.Registry

/-!
# The commands of `akctl` that write the registry (`scripts/install-autokaggle-control.py`)

A command loads the registry, assigns to its fields while it works with tmux, and writes it back
as a whole. A draft is a registry that was loaded and the assignments that were made to it, so
what a command writes is the draft's registry.

Results: `replay_append`, `valid_append`, how drafts compose.
-/

namespace Akctl

open Keyed Threads

/-! ## Assignments -/

/-- What commands assign to a registry. -/
inductive Update
  /-- `registry["tasks"][id] = record` -/
  | addTask (tid : TaskId) (record : Record)
  /-- `record["status"] = state`, with its reason -/
  | setStatus (tid : TaskId) (state reason : String)
  /-- `record["cleanup"] = ...` -/
  | setCleanup (tid : TaskId) (cleanup : Cleanup)
  /-- `registry["tasks"][id]["monitor"]["worker"] = identity` -/
  | setMonitorWorker (tid : TaskId) (pane : Pane)
  /-- `registry["tasks"][id]["monitor"]["loop"] = ...` -/
  | setMonitorLoop (tid : TaskId) (loop : MonitorLoop)
  /-- What `stop_orchestrator_record` assigns. -/
  | stopOrchestrator (reason : String) (cleanup : Cleanup)
  deriving DecidableEq, Repr

/-- The task of which an update assigns a field. -/
def Update.fieldOf : Update → Option TaskId
  | .addTask _ _ => none
  | .setStatus tid _ _ => some tid
  | .setCleanup tid _ => some tid
  | .setMonitorWorker tid _ => some tid
  | .setMonitorLoop tid _ => some tid
  | .stopOrchestrator _ _ => none

/-- What an assignment to a field makes of the record. -/
def Update.onRecord (u : Update) (record : Record) : Record :=
  match u with
  | .setStatus _ state reason => { record with status := some state, statusReason := some reason }
  | .setCleanup _ cleanup => { record with cleanup := some cleanup }
  | .setMonitorWorker _ pane => { record with monitor := { record.monitor with worker := some pane } }
  | .setMonitorLoop _ loop => { record with monitor := { record.monitor with loop := some loop } }
  | .addTask _ _ => record
  | .stopOrchestrator _ _ => record

/-- The fields of a section that is not there. -/
def Orchestrator.empty : Orchestrator := ⟨none, none, none, none, none⟩

def Update.apply (u : Update) (registry : Registry) : Registry :=
  match u with
  | .addTask tid record => registry.setTask tid record
  | .stopOrchestrator reason cleanup =>
    { registry with orchestrator := some { registry.orchestrator.getD .empty with
        stopReason := some reason, loop := none, cleanup := some cleanup } }
  | .setStatus tid _ _ | .setCleanup tid _ | .setMonitorWorker tid _ | .setMonitorLoop tid _ =>
    match Dict.get? registry.tasks tid with
    | some record => registry.setTask tid (u.onRecord record)
    | none => registry

/-- An assignment to a field of a task that is not there raises a `KeyError`. -/
def Update.Applies (u : Update) (registry : Registry) : Prop :=
  ∀ tid, u.fieldOf = some tid → (Dict.get? registry.tasks tid).isSome

instance (u : Update) (registry : Registry) : Decidable (u.Applies registry) :=
  match h : u.fieldOf with
  | none => isTrue fun tid ht => by rw [h] at ht; cases ht
  | some tid =>
    if hs : (Dict.get? registry.tasks tid).isSome then
      isTrue fun tid' ht => by rw [h] at ht; cases ht; exact hs
    else isFalse fun hall => hs (hall tid h)

/-- The registry after assignments. -/
def replay (registry : Registry) (us : List Update) : Registry :=
  us.foldl (fun registry u => u.apply registry) registry

/-- Each assignment applies to what the ones before it leave. -/
def Valid : Registry → List Update → Prop
  | _, [] => True
  | registry, u :: us => u.Applies registry ∧ Valid (u.apply registry) us

theorem replay_append (registry : Registry) (us us' : List Update) :
    replay registry (us ++ us') = replay (replay registry us) us' := List.foldl_append

theorem valid_append {registry : Registry} {us us' : List Update} :
    Valid registry (us ++ us') ↔ Valid registry us ∧ Valid (replay registry us) us' := by
  induction us generalizing registry with
  | nil => simp [Valid, replay]
  | cons u us ih =>
    change u.Applies registry ∧ Valid (u.apply registry) (us ++ us') ↔ _
    rw [ih, ← and_assoc]
    rfl

/-- A registry that was loaded, and the assignments that were made to it. -/
structure Draft where
  loaded : Registry
  updates : List Update
  valid : Valid loaded updates

/-- The registry as the command has it. -/
def Draft.registry (d : Draft) : Registry := replay d.loaded d.updates

def Draft.of (loaded : Registry) : Draft := ⟨loaded, [], trivial⟩

def Draft.assign (d : Draft) (u : Update) (h : u.Applies d.registry) : Draft where
  loaded := d.loaded
  updates := d.updates ++ [u]
  valid := valid_append.mpr ⟨d.valid, h, trivial⟩

/-! ## Actions -/

/-- The state: the registry file. The log is ghost: what the writes have assigned, in order. -/
structure World where
  registry : Registry
  log : List Update

/-- What a command does outside of its own memory. -/
inductive Act : Type → Type 1
  /-- `load_registry` -/
  | load : Act Registry
  /-- `write_registry` -/
  | write (d : Draft) : Act Unit
  | legacyWorkspaceExists (task : Task) : Act Bool
  | createWorkspace (task : Task) (smoke : Bool) : Act Unit
  | startWindow (window : String) : Act Pane
  | submitClaudeLoop (paneId : String) : Act String
  /-- Reads the `status.json` of a workspace. -/
  | statusFile (workspace : String) : Act StatusFile
  | writeStatusFile (workspace state reason : String) : Act Unit
  /-- `kill_tmux_target` returns the action that it took. -/
  | killTmuxTarget (window : String) (dryRun : Bool) : Act String

/-- What the outside returns to an action, or the exception that it raises. -/
structure Answer where
  error : Option String := none
  flag : Bool := false
  pane : Pane := ⟨"", ""⟩
  text : String := ""
  file : StatusFile := .absent

def exec {α : Type} (a : Act α) (answer : Answer) (s : World) : Except String α × World :=
  match a with
  | .load => (.ok s.registry, s)
  | .write d => (.ok (), ⟨d.registry, s.log ++ d.updates⟩)
  | .legacyWorkspaceExists _ => (.ok answer.flag, s)
  | .createWorkspace _ _ => (answer.error.elim (.ok ()) .error, s)
  | .startWindow _ => (answer.error.elim (.ok answer.pane) .error, s)
  | .submitClaudeLoop _ => (answer.error.elim (.ok answer.text) .error, s)
  | .statusFile _ => (.ok answer.file, s)
  | .writeStatusFile _ _ _ => (answer.error.elim (.ok ()) .error, s)
  | .killTmuxTarget _ _ => (answer.error.elim (.ok answer.text) .error, s)

/-! ## Programs -/

abbrev CmdProg (α : Type) := Prog Act String α

/-- An assignment to the draft. -/
def assign (d : Draft) (u : Update) : CmdProg Draft :=
  if h : u.Applies d.registry then pure (d.assign u h) else Prog.throw "KeyError"

/-- `start_task`'s arguments. -/
structure StartArgs where
  task : String
  gpu : Gpu
  slot : Nat
  monitorMode : Option String
  smoke : Bool

/-- `start_task` -/
def startTaskCmd (inst : Installation) (args : StartArgs) : CmdProg Unit := do
  match findTask inst args.task with
  | none => Prog.throw ("unknown task: " ++ inst.upper args.task)
  | some task =>
    if ← Prog.call (.legacyWorkspaceExists task) then
      Prog.throw ("refusing duplicate start; legacy workspace exists for " ++ task.id ++ ": " ++
        task.problemDir)
    else
      let registry ← Prog.call .load
      if (Dict.get? registry.tasks task.id).isSome && !args.smoke then
        Prog.throw ("task already in v2 registry: " ++ task.id)
      else
        Prog.call (.createWorkspace task args.smoke)
        let mode := (args.monitorMode.filter (· ≠ "")).getD inst.defaultMonitorMode
        let worker ← Prog.call (.startWindow ("worker-" ++ task.id))
        let record := { newRecord inst task args.gpu args.slot mode (some worker) with
          workspace := if args.smoke then inst.smokeWorkspacePath task else inst.workspacePath task
          smoke := args.smoke }
        let d ← assign (.of registry) (.addTask task.id record)
        Prog.call (.write d)
        let monitor ← Prog.call (.startWindow ("monitor-" ++ task.id))
        let submission ←
          if args.smoke then pure "" else Prog.call (.submitClaudeLoop monitor.paneId)
        -- the registry is loaded again: starting the monitor took a while
        let registry ← Prog.call .load
        let d ← assign (.of registry) (.setMonitorWorker task.id monitor)
        let d ← assign d (.setMonitorLoop task.id ⟨inst.monitorInterval, submission⟩)
        Prog.call (.write d)

/-- `patrol` and `start-batch`: what they start depends on the registries that they load. -/
def launch (inst : Installation) (choose : Nat → Registry → Option StartArgs) (keepGoing : Bool) :
    Nat → Nat → CmdProg Unit
  | 0, _ => pure ()
  | fuel + 1, i => do
    let registry ← Prog.call .load
    match choose i registry with
    | none => pure ()
    | some args =>
      match ← (startTaskCmd inst args).attempt with
      | .ok _ => launch inst choose keepGoing fuel (i + 1)
      | .error _ => if keepGoing then launch inst choose keepGoing fuel (i + 1) else pure ()

/-- The windows of `task_tmux_targets`. -/
def taskTmuxTargets (tid : TaskId) (record : Record) : List String :=
  let window (pane : Option Pane) (dflt : String) : String :=
    match pane with
    | some pane => if pane.windowName = "" then dflt else pane.windowName
    | none => dflt
  [window record.worker ("worker-" ++ tid), window record.monitor.worker ("monitor-" ++ tid)].dedup

/-- Kill the windows; the result has those that were killed. -/
def killTargets (dryRun : Bool) : List String → CmdProg (List String)
  | [] => pure []
  | window :: windows => do
    let action ← Prog.call (.killTmuxTarget window dryRun)
    let killed ← killTargets dryRun windows
    pure (if action = "killed" ∨ action = "scheduled_kill" then window :: killed else killed)

/-- The part of `cleanup_task_record` that marks the task. -/
def markCancelledTask (tid : TaskId) (record : Record) (reason status : String) (dryRun mark : Bool)
    (d : Draft) : CmdProg Draft := do
  if mark && status ∉ terminalStates && !dryRun then
    let d ← assign d (.setStatus tid "cancelled" reason)
    Prog.call (.writeStatusFile record.workspace "cancelled" reason)
    pure d
  else pure d

/-- `cleanup_task_record` -/
def cleanupTaskRecord (tid : TaskId) (record : Record) (reason : String)
    (dryRun markCancelled terminalOnly : Bool) (d : Draft) : CmdProg Draft := do
  let file ← Prog.call (.statusFile record.workspace)
  let status := taskStatus (fun _ => file) record
  if terminalOnly && status ∉ terminalStates then pure d
  else
    let d ← markCancelledTask tid record reason status dryRun markCancelled d
    let killed ← killTargets dryRun (taskTmuxTargets tid record)
    if dryRun then pure d else assign d (.setCleanup tid ⟨reason, killed⟩)

/-- The loop over `sorted(tasks.items())`. -/
def cleanupRecords (reason : String) (dryRun markCancelled terminalOnly : Bool) :
    List (TaskId × Record) → Draft → CmdProg Draft
  | [], d => pure d
  | (tid, record) :: records, d => do
    let d ← cleanupTaskRecord tid record reason dryRun markCancelled terminalOnly d
    cleanupRecords reason dryRun markCancelled terminalOnly records d

/-- `sorted(tasks.items())` -/
def sortedItems (tasks : Dict TaskId Record) : List (TaskId × Record) :=
  tasks.rows.mergeSort fun a b => a.1 ≤ b.1

def writeUnless (dryRun : Bool) (d : Draft) : CmdProg Unit :=
  if dryRun then pure () else Prog.call (.write d)

/-- `cleanup-panes` -/
def runCleanupPanes (inst : Installation) (terminal : Bool) (task : Option String) (dryRun : Bool) :
    CmdProg Unit := do
  if !terminal then Prog.throw "cleanup-panes requires --terminal"
  else
    let registry ← Prog.call .load
    let records := (sortedItems registry.tasks).filter fun e =>
      match task with
      | some filter => filter = "" || inst.upper e.1 = inst.upper filter
      | none => true
    let d ← cleanupRecords "terminal_cleanup" dryRun false true records (.of registry)
    writeUnless dryRun d

/-- `stop-task` -/
def runStopTask (inst : Installation) (task reason : String) (dryRun : Bool) : CmdProg Unit := do
  let registry ← Prog.call .load
  let tid := inst.upper task
  match Dict.get? registry.tasks tid with
  | none => Prog.throw ("task is not in v2 registry: " ++ tid)
  | some record =>
    let d ← cleanupTaskRecord tid record reason dryRun true false (.of registry)
    writeUnless dryRun d

/-- The window of `orchestrator_tmux_target`. -/
def orchestratorTmuxTarget (registry : Registry) : String :=
  let orchestrator := registry.orchestrator.getD .empty
  match orchestrator.worker with
  | some pane => if pane.windowName = "" then orchestrator.window.getD "orchestrator" else pane.windowName
  | none => orchestrator.window.getD "orchestrator"

/-- `stop-all` -/
def runStopAll (reason : String) (dryRun : Bool) : CmdProg Unit := do
  let registry ← Prog.call .load
  let d ← cleanupRecords reason dryRun true false (sortedItems registry.tasks) (.of registry)
  let killed ← killTargets dryRun [orchestratorTmuxTarget d.registry]
  let d ← if dryRun then pure d else assign d (.stopOrchestrator reason ⟨reason, killed⟩)
  writeUnless dryRun d

/-- The arguments of `start-monitor-loop`. -/
structure LoopArgs where
  force : Bool
  retime : Bool
  intervalMinutes : Option Int

/-- `interval_minutes or monitor_loop_interval_minutes()` -/
def LoopArgs.interval (args : LoopArgs) (inst : Installation) : Int :=
  match args.intervalMinutes with
  | some n => if n = 0 then inst.monitorInterval else n
  | none => inst.monitorInterval

/-- `start_monitor_loop` -/
def startMonitorLoop (inst : Installation) (tid : TaskId) (args : LoopArgs) : CmdProg Unit := do
  let registry ← Prog.call .load
  match Dict.get? registry.tasks tid with
  | none => Prog.throw ("task is not in v2 registry: " ++ tid)
  | some record =>
    if record.smoke then
      Prog.throw ("task is a smoke task; no Claude Code monitor loop: " ++ tid)
    else if record.monitor.loop.isSome && !args.force && !args.retime then pure ()
    else
      let paneId := (record.monitor.worker.map Pane.paneId).getD ""
      if paneId = "" then Prog.throw ("monitor pane_id missing for task: " ++ tid)
      else
        let submission ← Prog.call (.submitClaudeLoop paneId)
        let d ← assign (.of registry) (.setMonitorLoop tid ⟨args.interval inst, submission⟩)
        Prog.call (.write d)

/-- The loop of `run_start_monitor_loop`. -/
def startMonitorLoops (inst : Installation) (args : LoopArgs) (keepGoing : Bool) :
    List TaskId → CmdProg Unit
  | [] => pure ()
  | tid :: tids => do
    match ← (startMonitorLoop inst tid args).attempt with
    | .ok _ => startMonitorLoops inst args keepGoing tids
    | .error _ => if keepGoing then startMonitorLoops inst args keepGoing tids else pure ()

/-- `start-monitor-loop`, of one task or of all. -/
def runStartMonitorLoop (inst : Installation) (task : Option String) (args : LoopArgs)
    (keepGoing : Bool) : CmdProg Unit := do
  let registry ← Prog.call .load
  match task with
  | none =>
    startMonitorLoops inst args keepGoing ((sortedItems registry.tasks).map Prod.fst)
  | some task =>
    match findTask inst task with
    | none => Prog.throw ("unknown task: " ++ inst.upper task)
    | some task => startMonitorLoops inst args keepGoing [task.id]

/-- The commands. -/
inductive Command
  | startTask (args : StartArgs)
  | launch (choose : Nat → Registry → Option StartArgs) (keepGoing : Bool) (fuel : Nat)
  | cleanupPanes (terminal : Bool) (task : Option String) (dryRun : Bool)
  | stopTask (task reason : String) (dryRun : Bool)
  | stopAll (reason : String) (dryRun : Bool)
  | startMonitorLoop (task : Option String) (args : LoopArgs) (keepGoing : Bool)

def program (inst : Installation) : Command → CmdProg Unit
  | .startTask args => startTaskCmd inst args
  | .launch choose keepGoing fuel => Akctl.launch inst choose keepGoing fuel 0
  | .cleanupPanes terminal task dryRun => runCleanupPanes inst terminal task dryRun
  | .stopTask task reason dryRun => runStopTask inst task reason dryRun
  | .stopAll reason dryRun => runStopAll reason dryRun
  | .startMonitorLoop task args keepGoing => runStartMonitorLoop inst task args keepGoing

/-- The commands as a system of processes that share the registry file. -/
def akctl (inst : Installation) : System Act String World Answer Command where
  exec _ _ a answer s := exec a answer s
  program := program inst
  finish _ s := s
  restart s := s

end Akctl
