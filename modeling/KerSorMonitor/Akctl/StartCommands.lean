import KerSorMonitor.Lib.Machine
import KerSorMonitor.Akctl.PatrolLimits

/-!
# The commands that start tasks (`scripts/install-autokaggle-control.py`)

`akctl patrol` chooses a place that is free. `start-batch` and `start-task` take the place from the
file or the command line, and check only the counts, or nothing.

Result: `one_per_slot`, the runs in which no two active tasks share a place.
-/

namespace Akctl

open Keyed Loops Machine

/-! ## `start-task` -/

/-- The record of a task at a given place. -/
def placedRecord (inst : Installation) (task : Task) (gpu slot : Int) (mode : String)
    (worker : Option Pane) : Record :=
  { newRecord inst task ⟨gpu, ""⟩ 0 mode worker with gpu := ⟨some gpu, some slot⟩ }

/-- `start_task` at a given place. -/
def startTaskAt (inst : Installation) (m : Moment) (registry : Registry) (task : Task)
    (gpu slot : Int) (mode : String) : Except String Record × Registry :=
  if m.legacyWorkspace task then
    (.error ("RuntimeError: refusing duplicate start; legacy workspace exists for " ++ task.id ++ ": " ++
      task.problemDir), registry)
  else if (Dict.get? registry.tasks task.id).isSome then
    (.error ("RuntimeError: task already in v2 registry: " ++ task.id), registry)
  else if m.workspace task then
    (.error ("RuntimeError: workspace already exists: " ++ inst.workspacePath task), registry)
  else
    match m.attempt with
    | .started worker monitorWorker loop =>
      let record := { placedRecord inst task gpu slot mode (some worker) with
        monitor := ⟨mode, some monitorWorker, some loop⟩ }
      (.ok record, registry.setTask task.id record)
    | .failed error none => (.error error, registry)
    | .failed error (some worker) =>
      (.error error, registry.setTask task.id (placedRecord inst task gpu slot mode (some worker)))

/-- A patrol starts a task at the place that it has chosen. -/
theorem startTask_eq (inst : Installation) (m : Moment) (registry : Registry) (task : Task)
    (gpu : Gpu) (slot : Nat) (mode : String) :
    startTask inst m registry task gpu slot mode =
      startTaskAt inst m registry task gpu.index slot mode := rfl

/-- The checks of `start_task`. -/
def Startable (m : Moment) (registry : Registry) (task : Task) : Prop :=
  m.legacyWorkspace task = false ∧ Dict.get? registry.tasks task.id = none ∧
    m.workspace task = false

instance (m : Moment) (registry : Registry) (task : Task) : Decidable (Startable m registry task) :=
  inferInstanceAs (Decidable (_ ∧ _ ∧ _))

/-! ## `start-batch` -/

/-- A row of the file. -/
structure BatchRow where
  task : String
  gpu : Int
  slot : Int
  gpuUuid : String := "auto"
  monitorMode : Option String := none
  line : Nat
  deriving DecidableEq, Repr

structure BatchArgs where
  maxActive : Int
  maxPerGpu : Int
  strict : Bool := false
  keepGoing : Bool := false
  deriving DecidableEq, Repr

structure BatchStart where
  task : TaskId
  gpu : Int
  slot : Int
  monitorMode : String
  deriving DecidableEq, Repr

structure BatchError where
  line : Nat
  task : String
  error : String
  deriving DecidableEq, Repr

/-- The registry file, and the variables of `run_start_batch`. -/
structure Batch where
  registry : Registry
  started : List BatchStart
  skipped : List (TaskId × String)
  errors : List BatchError

/-- `duplicate_reason`. -/
def duplicateReason (m : Moment) (registry : Registry) (task : Task) : Option String :=
  if m.legacyWorkspace task then some "legacy_workspace"
  else if (Dict.get? registry.tasks task.id).isSome then some "v2_registry"
  else if m.workspace task then some "v2_workspace"
  else none

/-- `capacity_reason`. -/
def capacityReason (files : Files) (tasks : Dict TaskId Record) (gpu maxActive maxPerGpu : Int) :
    Option String :=
  let total := activeTotal files tasks
  let gpuCount := activeOn files tasks gpu
  if 0 < maxActive ∧ maxActive ≤ total then
    some ("capacity_max_active:" ++ toString total ++ "/" ++ toString maxActive)
  else if 0 < maxPerGpu ∧ maxPerGpu ≤ gpuCount then
    some ("capacity_gpu_" ++ toString gpu ++ ":" ++ toString gpuCount ++ "/" ++ toString maxPerGpu)
  else none

/-- `resolve_gpu_uuid`, for the identifiers that `nvidia-smi` has listed, if it could. -/
def resolveGpuUuid (uuids : Option (List String)) (index : Int) : Except String String :=
  match uuids with
  | none => .ok ("GPU-index-" ++ toString index)
  | some uuids =>
    match if index < 0 then none else uuids[index.toNat]? with
    | some uuid => .ok uuid
    | none => .error ("RuntimeError: GPU index out of range: " ++ toString index ++ "; detected " ++
        toString uuids.length ++ " GPUs")

/-- What `run_start_batch` decides on a row. -/
inductive RowVerdict
  | skip (task : TaskId) (reason : String)
  | start (task : Task)

/-- The row goes on to `start_task`. -/
def starts : Except String RowVerdict → Bool
  | .ok (.start _) => true
  | _ => false

/-- The part of an iteration before `start_task`, or the exception that it raises. -/
def checkRow (inst : Installation) (args : BatchArgs) (m : Moment) (uuids : Option (List String))
    (registry : Registry) (row : BatchRow) : Except String RowVerdict :=
  match findTask inst row.task with
  | none => .error ("RuntimeError: unknown task: " ++ inst.upper row.task)
  | some task =>
    match duplicateReason m registry task with
    | some reason =>
      if args.strict then .error ("RuntimeError: duplicate task " ++ task.id ++ ": " ++ reason)
      else .ok (.skip task.id reason)
    | none =>
      match capacityReason m.files registry.tasks row.gpu args.maxActive args.maxPerGpu with
      | some reason => .ok (.skip task.id reason)
      | none =>
        if row.gpuUuid = "" ∨ row.gpuUuid.toLower = "auto" then
          (resolveGpuUuid uuids row.gpu).map fun _ => .start task
        else .ok (.start task)

/-- An iteration of `run_start_batch`, and whether the loop goes on. -/
def batchRow (inst : Installation) (args : BatchArgs) (m : Moment) (uuids : Option (List String))
    (row : BatchRow) (b : Batch) : Batch × Bool :=
  match checkRow inst args m uuids b.registry row with
  | .error error => ({ b with errors := b.errors ++ [⟨row.line, row.task, error⟩] }, args.keepGoing)
  | .ok (.skip task reason) => ({ b with skipped := b.skipped ++ [(task, reason)] }, true)
  | .ok (.start task) =>
    let mode := orElse row.monitorMode inst.defaultMonitorMode
    match startTaskAt inst m b.registry task row.gpu row.slot mode with
    | (.ok _, registry') => ({ b with
        registry := registry', started := b.started ++ [⟨task.id, row.gpu, row.slot, mode⟩] }, true)
    | (.error error, registry') => ({ b with
        registry := registry', errors := b.errors ++ [⟨row.line, row.task, error⟩] }, args.keepGoing)

/-- What `start_orchestrator` does to the registry. -/
def Registry.startOrchestrator (registry : Registry) (worker : Pane) : Registry :=
  { registry with orchestrator := some ⟨some "orchestrator", some worker, none, none, none⟩ }

/-! ## `stop-task` and `stop-all` -/

/-- `write_task_state` writes the status file too. -/
def writeStatus (files : Files) (workspace state : String) : Files := fun path =>
  if path = workspace then .state (some state) else files path

/-- `cleanup_task_record` of a task that is stopped. -/
def stopRecord (reason : String) (killed : TaskId → List String) (tid : TaskId)
    (s : Files × Registry) : Files × Registry :=
  match Dict.get? s.2.tasks tid with
  | none => s
  | some record =>
    let cleanup := some ⟨reason, killed tid⟩
    if taskStatus s.1 record ∈ terminalStates then (s.1, s.2.setTask tid { record with cleanup })
    else (writeStatus s.1 record.workspace "cancelled", s.2.setTask tid { record with
      status := some "cancelled", statusReason := some reason, cleanup })

/-! ## The machine -/

/-- What a command finds, apart from the registry and the status files. -/
structure Outside where
  legacyWorkspace : Task → Bool := fun _ => false
  workspace : Task → Bool := fun _ => false
  problem : Task → Bool := fun _ => true
  gpus : List Gpu := []
  uuids : Option (List String) := none
  attempt : Attempt

def Outside.moment (o : Outside) (files : Files) : Moment :=
  ⟨files, o.legacyWorkspace, o.workspace, o.problem, o.gpus, o.attempt⟩

/-- The command that is carried out. -/
inductive Phase
  | idle (registry : Registry)
  | patrolling (args : PatrolArgs) (rows : List QueueRow) (p : Patrol)
  | batching (args : BatchArgs) (rows : List BatchRow) (b : Batch)

/-- The registry file. -/
def Phase.registry : Phase → Registry
  | .idle registry => registry
  | .patrolling _ _ p => p.registry
  | .batching _ _ b => b.registry

structure Control where
  files : Files
  phase : Phase

def Control.tasks (s : Control) : Dict TaskId Record := s.phase.registry.tasks

/-- No task is registered. -/
def Control.initial (files : Files) : Control := ⟨files, .idle ⟨Table.empty, none⟩⟩

/-- A command is given, the command goes on with its next iteration, or status files change. -/
inductive ControlEvent
  | patrol (args : PatrolArgs) (rows : List QueueRow)
  | startBatch (args : BatchArgs) (rows : List BatchRow) (orchestrator : Option Pane)
  | startTask (task : String) (gpu slot : Int) (mode : Option String) (o : Outside)
  | stop (tids : List TaskId) (reason : String) (killed : TaskId → List String)
  | next (o : Outside)
  | statuses (files : Files)

/-- How a patrol goes on after an iteration. -/
def afterIteration (args : PatrolArgs) (rows : List QueueRow) : Step Patrol Outcome → Phase
  | .next p => .patrolling args rows p
  | .done outcome => .idle outcome.patrol.registry

/-- How `start-batch` goes on after a row. -/
def afterRow (args : BatchArgs) (rows : List BatchRow) : Batch × Bool → Phase
  | (b, true) => .batching args rows b
  | (b, false) => .idle b.registry

/-- The next iteration of a command. -/
def Phase.next (inst : Installation) (o : Outside) (files : Files) : Phase → Phase
  | .idle registry => .idle registry
  | .patrolling args rows p =>
    afterIteration args rows (patrolBody inst args rows (fun _ => o.moment files) 0 p)
  | .batching _ [] b => .idle b.registry
  | .batching args (row :: rows) b =>
    afterRow args rows (batchRow inst args (o.moment files) o.uuids row b)

/-- What an event does. A command is given only when none is carried out. -/
def Control.step (inst : Installation) (e : ControlEvent) (s : Control) : Control :=
  match e, s.phase with
  | .statuses files, _ => { s with files }
  | .next o, phase => { s with phase := phase.next inst o s.files }
  | .patrol args rows, .idle registry => { s with phase := .patrolling args rows (.initial registry) }
  | .startBatch args rows orchestrator, .idle registry =>
    let registry' := orchestrator.elim registry registry.startOrchestrator
    { s with phase := .batching args rows ⟨registry', [], [], []⟩ }
  | .startTask task gpu slot mode o, .idle registry =>
    match findTask inst task with
    | none => s
    | some task => { s with phase := .idle (startTaskAt inst (o.moment s.files) registry task gpu slot
        (orElse mode inst.defaultMonitorMode)).2 }
  | .stop tids reason killed, .idle registry =>
    let (files, registry') := tids.foldl (fun s tid => stopRecord reason killed tid s) (s.files, registry)
    ⟨files, .idle registry'⟩
  | _, _ => s

/-- Tasks may end at any time, but no registered task that has ended becomes active. -/
def ControlEvent.Settling (s : Control) : ControlEvent → Prop
  | .statuses files => Settles s.files files s.tasks
  | _ => True

/-- The place that `start-batch` or `start-task` gives to a task is free, and the limits with which
`start-batch` starts one are positive. -/
def Phase.Careful (inst : Installation) (files : Files) : ControlEvent → Phase → Prop
  | .next o, .batching args (row :: _) b =>
    starts (checkRow inst args (o.moment files) o.uuids b.registry row) = true →
      (row.gpu, row.slot) ∉ occupiedSlots files b.registry.tasks ∧
        0 < args.maxActive ∧ 0 < args.maxPerGpu
  | .startTask task gpu slot _ o, .idle registry =>
    ∀ t ∈ findTask inst task, Startable (o.moment files) registry t →
      (gpu, slot) ∉ occupiedSlots files registry.tasks
  | _, _ => True

instance (inst : Installation) (files : Files) :
    ∀ (e : ControlEvent) (phase : Phase), Decidable (phase.Careful inst files e)
  | .next _, .batching _ (_ :: _) _ => inferInstanceAs (Decidable (_ → _ ∧ _ ∧ _))
  | .startTask task gpu slot _ o, .idle registry => inferInstanceAs (Decidable
      (∀ t ∈ findTask inst task, Startable (o.moment files) registry t →
        (gpu, slot) ∉ occupiedSlots files registry.tasks))
  | .next _, .idle _ | .next _, .patrolling .. | .next _, .batching _ [] _ => isTrue trivial
  | .startTask .., .patrolling .. | .startTask .., .batching .. => isTrue trivial
  | .patrol .., _ | .startBatch .., _ | .stop .., _ | .statuses _, _ => isTrue trivial

def Control.Careful (inst : Installation) (s : Control) (e : ControlEvent) : Prop :=
  s.phase.Careful inst s.files e

instance (inst : Installation) (s : Control) (e : ControlEvent) : Decidable (s.Careful inst e) :=
  inferInstanceAs (Decidable (s.phase.Careful inst s.files e))

/-- No count is raised that is above its limit after. -/
def KeepsLimits (args : BatchArgs) (files : Files) (tasks tasks' : Dict TaskId Record) : Prop :=
  (args.maxActive < activeTotal files tasks' → activeTotal files tasks' ≤ activeTotal files tasks) ∧
    ∀ gpu, args.maxPerGpu < activeOn files tasks' gpu →
      activeOn files tasks' gpu ≤ activeOn files tasks gpu

/-! ## What the commands do to the registry -/

section Steps

variable {inst : Installation} {m : Moment} {files : Files} {registry : Registry}

theorem startTaskAt_cases (inst : Installation) (m : Moment) (registry : Registry) (task : Task)
    (gpu slot : Int) (mode : String) :
    (startTaskAt inst m registry task gpu slot mode).2 = registry ∨
      Startable m registry task ∧ ∃ record : Record, record.gpu = ⟨some gpu, some slot⟩ ∧
        (startTaskAt inst m registry task gpu slot mode).2 = registry.setTask task.id record := by
  unfold startTaskAt
  split
  · exact Or.inl rfl
  next hlegacy =>
  split
  · exact Or.inl rfl
  next hnew =>
  split
  · exact Or.inl rfl
  next hworkspace =>
  have hstartable : Startable m registry task := by
    refine ⟨by simpa using hlegacy, ?_, by simpa using hworkspace⟩
    simpa using hnew
  split
  · exact Or.inr ⟨hstartable, _, rfl, rfl⟩
  · exact Or.inl rfl
  · exact Or.inr ⟨hstartable, _, rfl, rfl⟩

theorem capacityReason_eq_none {tasks : Dict TaskId Record} {gpu maxActive maxPerGpu : Int}
    (h : capacityReason files tasks gpu maxActive maxPerGpu = none) :
    (0 < maxActive → (activeTotal files tasks : Int) < maxActive) ∧
      (0 < maxPerGpu → (activeOn files tasks gpu : Int) < maxPerGpu) := by
  unfold capacityReason at h
  dsimp only at h
  split at h
  · cases h
  next htotal =>
  split at h
  · cases h
  next hon =>
  exact ⟨fun hpos => Int.not_le.mp fun hle => htotal ⟨hpos, hle⟩,
    fun hpos => Int.not_le.mp fun hle => hon ⟨hpos, hle⟩⟩

variable {args : BatchArgs} {uuids : Option (List String)} {row : BatchRow}

theorem capacity_of_checkRow {task : Task}
    (h : checkRow inst args m uuids registry row = .ok (.start task)) :
    capacityReason m.files registry.tasks row.gpu args.maxActive args.maxPerGpu = none := by
  unfold checkRow at h
  split at h
  · cases h
  split at h
  · split at h <;> cases h
  split at h
  · cases h
  · assumption

theorem batchRow_cases (inst : Installation) (args : BatchArgs) (m : Moment)
    (uuids : Option (List String)) (row : BatchRow) (b : Batch) :
    (batchRow inst args m uuids row b).1.registry = b.registry ∨
      ∃ task, checkRow inst args m uuids b.registry row = .ok (.start task) ∧
        ∃ record : Record, record.gpu = ⟨some row.gpu, some row.slot⟩ ∧
          (batchRow inst args m uuids row b).1.registry = b.registry.setTask task.id record := by
  unfold batchRow
  split
  · exact Or.inl rfl
  · exact Or.inl rfl
  · next task hcheck =>
    have hcases := startTaskAt_cases inst m b.registry task row.gpu row.slot
      (orElse row.monitorMode inst.defaultMonitorMode)
    dsimp only
    split
    · next hstart =>
      rw [hstart] at hcases
      exact hcases.imp_right fun h => ⟨task, hcheck, h.2⟩
    · next hstart =>
      rw [hstart] at hcases
      exact hcases.imp_right fun h => ⟨task, hcheck, h.2⟩

/-- A task whose status file has a terminal state is not active. -/
theorem not_active_writeStatus (files : Files) {workspace state : String}
    (hterminal : state ∈ terminalStates) {record : Record} (h : record.workspace = workspace) :
    ¬ record.active (writeStatus files workspace state) = true := by
  have hne : state ≠ "" := by
    rintro rfl
    simp [terminalStates] at hterminal
  have hstatus : taskStatus (writeStatus files workspace state) record = state := by
    unfold taskStatus writeStatus
    rw [if_pos h]
    exact if_neg hne
  unfold Record.active
  rw [hstatus]
  simp [hterminal]

theorem active_of_writeStatus {workspace state : String} (hterminal : state ∈ terminalStates)
    {record : Record} (h : record.active (writeStatus files workspace state) = true) :
    record.active files = true := by
  by_cases hsame : record.workspace = workspace
  · exact (not_active_writeStatus files hterminal hsame h).elim
  · have hfile : writeStatus files workspace state record.workspace = files record.workspace :=
      if_neg hsame
    unfold Record.active taskStatus at h ⊢
    rw [hfile] at h
    exact h

/-- A stop leaves the places, and makes no task active. -/
theorem stopRecord_records (reason : String) (killed : TaskId → List String) (tid : TaskId)
    (s : Files × Registry) (tid' : TaskId) (record' : Record)
    (h : Dict.get? (stopRecord reason killed tid s).2.tasks tid' = some record') :
    ∃ record, Dict.get? s.2.tasks tid' = some record ∧ record.gpu = record'.gpu ∧
      (record'.active (stopRecord reason killed tid s).1 = true → record.active s.1 = true) := by
  unfold stopRecord at h ⊢
  split at h
  · exact ⟨record', h, rfl, id⟩
  next record hget =>
  dsimp only at h ⊢
  split at h
  · next hterminal =>
    rw [if_pos hterminal]
    rw [get?_setTask] at h
    split at h
    · next heq =>
      cases h
      exact ⟨record, heq ▸ hget, rfl, id⟩
    · exact ⟨record', h, rfl, id⟩
  · next hterminal =>
    rw [if_neg hterminal]
    rw [get?_setTask] at h
    split at h
    · next heq =>
      cases h
      exact ⟨record, heq ▸ hget, rfl, fun hactive =>
        (not_active_writeStatus s.1 (by simp [terminalStates]) rfl hactive).elim⟩
    · exact ⟨record', h, rfl, active_of_writeStatus (by simp [terminalStates])⟩

theorem OnePerSlot.stop (reason : String) (killed : TaskId → List String) (tids : List TaskId)
    (s : Files × Registry) (h : OnePerSlot s.1 s.2.tasks) :
    OnePerSlot (tids.foldl (fun s tid => stopRecord reason killed tid s) s).1
      (tids.foldl (fun s tid => stopRecord reason killed tid s) s).2.tasks := by
  induction tids generalizing s with
  | nil => exact h
  | cons tid tids ih => exact ih _ (h.of_records (stopRecord_records reason killed tid s))

end Steps

/-! ## Runs -/

/-- No two active tasks share a place, and the working copy of a patrol covers the registry. -/
structure Control.Sound (s : Control) : Prop where
  places : OnePerSlot s.files s.tasks
  covers : ∀ args rows p, s.phase = .patrolling args rows p → Covers p.working p.registry

section Runs

variable {inst : Installation} {s : Control}

theorem sound_idle {files : Files} {registry : Registry} (h : OnePerSlot files registry.tasks) :
    Control.Sound ⟨files, .idle registry⟩ := ⟨h, fun _ _ _ heq => nomatch heq⟩

theorem sound_batching {files : Files} {args : BatchArgs} {rows : List BatchRow} {b : Batch}
    (h : OnePerSlot files b.registry.tasks) : Control.Sound ⟨files, .batching args rows b⟩ :=
  ⟨h, fun _ _ _ heq => nomatch heq⟩

theorem sound_initial (files : Files) : (Control.initial files).Sound := by
  refine sound_idle fun tid _ record _ _ hget => ?_
  cases hget

/-- A row of `start-batch` whose place is free. -/
theorem places_batchRow {args : BatchArgs} {m : Moment} {uuids : Option (List String)}
    {row : BatchRow} {b : Batch} (h : OnePerSlot m.files b.registry.tasks)
    (hfree : starts (checkRow inst args m uuids b.registry row) = true →
      (row.gpu, row.slot) ∉ occupiedSlots m.files b.registry.tasks) :
    OnePerSlot m.files (batchRow inst args m uuids row b).1.registry.tasks := by
  rcases batchRow_cases inst args m uuids row b with hsame | ⟨task, hcheck, record, hplace, hset⟩
  · rw [hsame]
    exact h
  · rw [hset]
    exact h.set _ (hfree (by rw [hcheck]; rfl)) hplace

/-- An iteration of a patrol. -/
theorem sound_patrolling {files : Files} {args : PatrolArgs} {rows : List QueueRow} {p : Patrol}
    (h : Control.Sound ⟨files, .patrolling args rows p⟩) (o : Outside) :
    Control.Sound ⟨files, (Phase.patrolling args rows p).next inst o files⟩ := by
  have hcovers := h.covers args rows p rfl
  have hmoved := moved_of_body inst args rows (fun _ => o.moment files) 0 p
  have hplaces := OnePerSlot.moved (m := o.moment files) h.places hcovers hmoved
  change Control.Sound ⟨files, afterIteration args rows _⟩
  cases hbody : patrolBody inst args rows (fun _ => o.moment files) 0 p with
  | done outcome =>
    rw [hbody] at hplaces
    exact sound_idle hplaces
  | next p' =>
    rw [hbody] at hplaces hmoved
    refine ⟨hplaces, fun args' rows' q heq => ?_⟩
    cases heq
    exact hcovers.moved hmoved trivial

theorem sound_next (h : s.Sound) (o : Outside) (hcareful : s.Careful inst (.next o)) :
    (s.step inst (.next o)).Sound := by
  obtain ⟨files, phase⟩ := s
  cases phase with
  | idle registry => exact h
  | patrolling args rows p => exact sound_patrolling h o
  | batching args rows b =>
    cases rows with
    | nil => exact sound_idle h.places
    | cons row rows =>
      have hfree := places_batchRow (m := o.moment files) h.places fun hstarts =>
        (hcareful hstarts).1
      change Control.Sound ⟨files, afterRow args rows _⟩
      cases hrow : batchRow inst args (o.moment files) o.uuids row b with
      | mk b' goes =>
        rw [hrow] at hfree
        cases goes with
        | true => exact sound_batching hfree
        | false => exact sound_idle hfree

theorem sound_startTask (h : s.Sound) {task : String} {gpu slot : Int} {mode : Option String}
    {o : Outside} (hcareful : s.Careful inst (.startTask task gpu slot mode o)) :
    (s.step inst (.startTask task gpu slot mode o)).Sound := by
  obtain ⟨files, phase⟩ := s
  cases phase with
  | patrolling args rows p => exact h
  | batching args rows b => exact h
  | idle registry =>
    unfold Control.step
    dsimp only
    split
    · exact h
    next t hfind =>
    have hplaces : OnePerSlot files registry.tasks := h.places
    refine sound_idle ?_
    rcases startTaskAt_cases inst (o.moment files) registry t gpu slot
      (orElse mode inst.defaultMonitorMode) with hsame | ⟨hstartable, record, hplace, hset⟩
    · rw [hsame]
      exact hplaces
    · rw [hset]
      exact hplaces.set _ (hcareful t hfind hstartable) hplace

theorem sound_step {e : ControlEvent} (hsettling : e.Settling s) (hcareful : s.Careful inst e)
    (h : s.Sound) : (s.step inst e).Sound := by
  cases e with
  | next o => exact sound_next h o hcareful
  | startTask task gpu slot mode o => exact sound_startTask h hcareful
  | statuses files => exact ⟨h.places.later hsettling, h.covers⟩
  | patrol args rows =>
    obtain ⟨files, phase⟩ := s
    cases phase with
    | idle registry =>
      refine ⟨h.places, fun args' rows' p heq => ?_⟩
      cases heq
      exact .refl _
    | _ => exact h
  | startBatch args rows orchestrator =>
    obtain ⟨files, phase⟩ := s
    cases phase with
    | idle registry => cases orchestrator <;> exact sound_batching h.places
    | _ => exact h
  | stop tids reason killed =>
    obtain ⟨files, phase⟩ := s
    cases phase with
    | idle registry => exact sound_idle (OnePerSlot.stop reason killed tids (files, registry) h.places)
    | _ => exact h

/-- A row of `start-batch` raises no count above its limit. -/
theorem keepsLimits_batchRow {args : BatchArgs} {m : Moment} {uuids : Option (List String)}
    {row : BatchRow} {b : Batch}
    (hpos : starts (checkRow inst args m uuids b.registry row) = true →
      0 < args.maxActive ∧ 0 < args.maxPerGpu) :
    KeepsLimits args m.files b.registry.tasks (batchRow inst args m uuids row b).1.registry.tasks := by
  rcases batchRow_cases inst args m uuids row b with hsame | ⟨task, hcheck, record, hplace, hset⟩
  · rw [hsame]
    exact ⟨fun _ => le_rfl, fun _ _ => le_rfl⟩
  · obtain ⟨hactive, hgpu⟩ := hpos (by rw [hcheck]; rfl)
    obtain ⟨htotal, hroom⟩ := capacityReason_eq_none (capacity_of_checkRow hcheck)
    have hactive := htotal hactive
    have hgpu := hroom hgpu
    rw [hset]
    refine ⟨fun habove => ?_, fun gpu habove => ?_⟩
    · have hle := activeTotal_setTask_le task.id m.files b.registry record
      omega
    · have hle := activeOn_setTask_le task.id m.files b.registry (congrArg GpuField.index hplace) gpu
      split at hle
      · next heq =>
        subst heq
        omega
      · omega

theorem keepsLimits_step {e : ControlEvent} (hcareful : s.Careful inst e) {args : BatchArgs}
    {rows : List BatchRow} {b : Batch} (hphase : s.phase = .batching args rows b) :
    KeepsLimits args s.files s.tasks (s.step inst e).tasks := by
  obtain ⟨files, phase⟩ := s
  obtain rfl : phase = .batching args rows b := hphase
  have hsame : KeepsLimits args files b.registry.tasks b.registry.tasks :=
    ⟨fun _ => le_rfl, fun _ _ => le_rfl⟩
  cases e with
  | next o =>
    cases rows with
    | nil => exact hsame
    | cons row rows =>
      have hlimits := keepsLimits_batchRow (m := o.moment files) fun hstarts =>
        (hcareful hstarts).2
      change KeepsLimits args files b.registry.tasks (afterRow args rows _).registry.tasks
      cases hrow : batchRow inst args (o.moment files) o.uuids row b with
      | mk b' goes =>
        rw [hrow] at hlimits
        cases goes <;> exact hlimits
  | _ => exact hsame

/-- In a run in which tasks only end and the places given to `start-batch` and `start-task` are free,
no two active tasks share a place, and `start-batch` raises no count above its limit. -/
theorem one_per_slot (inst : Installation) (files : Files) (events : List ControlEvent)
    (hsettling : Along (Control.step inst) (fun s e => e.Settling s) events (.initial files))
    (hcareful : Along (Control.step inst) (Control.Careful inst) events (.initial files)) :
    OnePerSlot (run (Control.step inst) events (.initial files)).files
        (run (Control.step inst) events (.initial files)).tasks ∧
      Along (Control.step inst) (fun s e => ∀ args rows b, s.phase = .batching args rows b →
        KeepsLimits args s.files s.tasks (s.step inst e).tasks) events (.initial files) := by
  have hsound : (run (Control.step inst) events (.initial files)).Sound :=
    run_invariant (fun _ _ hok h => sound_step hok.1 hok.2 h) (hsettling.and hcareful)
      (sound_initial files)
  exact ⟨hsound.places, hcareful.mono fun _ _ hok _ _ _ hphase => keepsLimits_step hok hphase⟩

end Runs

section Examples

/-- Every start succeeds. -/
def smoothOutside : Outside where
  attempt := smoothMoment.attempt

/-- `start-batch` is given two rows with one place. -/
def sharedSlot : List ControlEvent :=
  [.startBatch { maxActive := 2, maxPerGpu := 2 }
      [{ task := "A", gpu := 0, slot := 0, line := 1 }, { task := "B", gpu := 0, slot := 0, line := 2 }]
      none,
    .next smoothOutside, .next smoothOutside, .next smoothOutside]

theorem shared_slot :
    ¬ OnePerSlot (run (Control.step twoTasks) sharedSlot (.initial fun _ => .absent)).files
      (run (Control.step twoTasks) sharedSlot (.initial fun _ => .absent)).tasks := by
  have hplace : ∀ tid ∈ ["A", "B"],
      (Dict.get? (run (Control.step twoTasks) sharedSlot (.initial fun _ => .absent)).tasks tid).any
        (fun record => record.active (fun _ => .absent) && record.gpu.place? = some (0, 0)) = true := by
    decide +kernel
  intro h
  obtain ⟨a, ha, haplace⟩ := (Option.any_eq_true _ _).mp (hplace "A" (by decide))
  obtain ⟨b, hb, hbplace⟩ := (Option.any_eq_true _ _).mp (hplace "B" (by decide))
  rw [Bool.and_eq_true, decide_eq_true_eq] at haplace hbplace
  exact absurd (h "A" "B" a b (0, 0) ha hb haplace.1 hbplace.1 haplace.2 hbplace.2) (by decide)

/-- The rows have two places, and the first task is stopped. -/
def ownSlots : List ControlEvent :=
  [.startBatch { maxActive := 2, maxPerGpu := 2 }
      [{ task := "A", gpu := 0, slot := 0, line := 1 }, { task := "B", gpu := 0, slot := 1, line := 2 }]
      none,
    .next smoothOutside, .next smoothOutside, .next smoothOutside,
    .stop ["A"] "done" fun _ => []]

theorem one_per_slot_own :
    OnePerSlot (run (Control.step twoTasks) ownSlots (.initial fun _ => .absent)).files
      (run (Control.step twoTasks) ownSlots (.initial fun _ => .absent)).tasks :=
  (one_per_slot twoTasks (fun _ => .absent) ownSlots ⟨trivial, trivial, trivial, trivial, trivial, trivial⟩
    (by decide +kernel)).1

end Examples

end Akctl
