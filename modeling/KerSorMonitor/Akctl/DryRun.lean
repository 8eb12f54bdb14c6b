import Mathlib.Data.List.Forall2
import KerSorMonitor.Akctl.PatrolLimits

/-!
# A dry run of a patrol (`scripts/install-autokaggle-control.py`)

With `--dry-run` a patrol starts nothing and plans on fake records. A patrol that starts tasks reloads
the registry after each, and finds the new records, workspaces and status files. The two go in step:
each sees the registry from before, grown by the same starts.

Results:
1. `follows_body`: an iteration of the one is that of the other.
2. `dry_run_is_plan`: what the dry run would start is what the patrol starts.
-/

namespace Akctl

open Keyed Loops

/-! ## What a patrol finds when nobody else interferes -/

/-- A workspace that does not exist has no status file. -/
def Moment.Consistent (inst : Installation) (m : Moment) : Prop :=
  ∀ task, m.workspace task = false → m.files (inst.workspacePath task) = .absent

/-- What the patrol finds after some starts: the workspaces of the started tasks are there, with the
status that `create_workspace` writes, the registered tasks have the status that they had, and
`start_task` succeeds. -/
structure Undisturbed (inst : Installation) (m₀ : Moment) (registry : Registry) (starts : List Start)
    (m : Moment) : Prop where
  legacyWorkspace : m.legacyWorkspace = m₀.legacyWorkspace
  problem : m.problem = m₀.problem
  gpus : m.gpus = m₀.gpus
  workspace : ∀ task, m.workspace task = true ↔ m₀.workspace task = true ∨
    ∃ start ∈ starts, ∃ started, findTask inst start.task = some started ∧
      inst.workspacePath started = inst.workspacePath task
  status : ∀ tid record, Dict.get? registry.tasks tid = some record →
    taskStatus m.files record = taskStatus m₀.files record
  created : ∀ start ∈ starts, ∀ started, findTask inst start.task = some started →
    m.files (inst.workspacePath started) = .state (some "starting")
  succeeds : ∃ worker monitorWorker loop, m.attempt = .started worker monitorWorker loop

/-- The queued tasks have workspaces of different names. -/
def OwnWorkspaces (inst : Installation) (rows : List QueueRow) : Prop :=
  ∀ row ∈ rows, ∀ row' ∈ rows, ∀ task task', findTask inst row.task = some task →
    findTask inst row'.task = some task' → inst.workspacePath task = inst.workspacePath task' →
      task.id = task'.id

/-- The blocked tasks of the final report, which loads the registry again. -/
def finalBlocked (inst : Installation) (m : Moment) (rows : List QueueRow) (p : Patrol) :
    Except String (List Skipped) :=
  (queueState inst m rows p.registry).map Prod.snd

/-! ## A registry that has grown -/

/-- A record of a start, fake or not. -/
structure Planned (inst : Installation) (start : Start) (e : TaskId × Record) : Prop where
  key : e.1 = start.task
  workspace : ∃ task, findTask inst start.task = some task ∧ e.2.workspace = inst.workspacePath task
  smoke : e.2.smoke = false
  status : e.2.status = none
  gpu : e.2.gpu = ⟨some start.gpu, some start.slot⟩

/-- The starts have added their records to the registry. -/
def Grown (inst : Installation) (registry working : Registry) (starts : List Start) : Prop :=
  ∃ added, working.tasks.rows = registry.tasks.rows ++ added ∧
    List.Forall₂ (Planned inst) starts added

/-- What the places of a patrol depend on: the GPU fields of the active records, in order. -/
def activeGpus (files : Files) (tasks : Dict TaskId Record) : List GpuField :=
  tasks.rows.filterMap fun e => if e.2.active files then some e.2.gpu else none

variable {inst : Installation} {args : PatrolArgs} {rows : List QueueRow} {m₀ m : Moment}
  {registry working : Registry} {starts : List Start} {files files' : Files}

theorem Grown.refl (registry : Registry) : Grown inst registry registry [] :=
  ⟨[], (List.append_nil _).symm, .nil⟩

theorem Grown.add (h : Grown inst registry working starts) {start : Start} {tid : TaskId}
    {record : Record} (hnew : Dict.get? working.tasks tid = none)
    (hplanned : Planned inst start (tid, record)) :
    Grown inst registry (working.setTask tid record) (starts ++ [start]) := by
  obtain ⟨added, hrows, hadded⟩ := h
  refine ⟨added ++ [(tid, record)], ?_, List.rel_append hadded (.cons hplanned .nil)⟩
  rw [← List.append_assoc, ← hrows]
  exact Dict.rows_set hnew record

/-- The registered tasks are those from before and the started ones. -/
theorem Grown.registered (h : Grown inst registry working starts) (tid : TaskId) :
    (Dict.get? working.tasks tid).isSome = true ↔
      (Dict.get? registry.tasks tid).isSome = true ∨ ∃ start ∈ starts, start.task = tid := by
  obtain ⟨added, hrows, hadded⟩ := h
  have hkeys : starts.map Start.task = added.map Prod.fst := by
    clear hrows
    induction hadded with
    | nil => rfl
    | cons hplanned _ ih =>
      rw [List.map_cons, List.map_cons, ih, hplanned.key]
  have hstarts : (∃ start ∈ starts, start.task = tid) ↔ ∃ record, (tid, record) ∈ added := by
    rw [← List.mem_map, hkeys, List.mem_map]
    constructor
    · rintro ⟨⟨tid', record⟩, hmem, rfl⟩
      exact ⟨record, hmem⟩
    · rintro ⟨record, hmem⟩
      exact ⟨(tid, record), hmem, rfl⟩
  simp only [Option.isSome_iff_exists, ← Dict.mem_rows_iff, hstarts, hrows, List.mem_append, exists_or]

theorem Planned.active {start : Start} {e : TaskId × Record} (h : Planned inst start e)
    (hfiles : ∀ task, findTask inst start.task = some task →
      files (inst.workspacePath task) = .absent ∨
        files (inst.workspacePath task) = .state (some "starting")) :
    e.2.active files = true := by
  obtain ⟨task, hfind, hworkspace⟩ := h.workspace
  unfold Record.active taskStatus
  rw [h.smoke, h.status, hworkspace]
  -- a fake record is unknown, a new one is starting
  rcases hfiles task hfind with hfile | hfile <;> rw [hfile] <;> decide

/-- The starts have taken their places. -/
theorem Grown.activeGpus (h : Grown inst registry working starts)
    (hfiles : ∀ start ∈ starts, ∀ task, findTask inst start.task = some task →
      files (inst.workspacePath task) = .absent ∨
        files (inst.workspacePath task) = .state (some "starting")) :
    activeGpus files working.tasks = activeGpus files registry.tasks ++
      starts.map fun start => ⟨some start.gpu, some start.slot⟩ := by
  obtain ⟨added, hrows, hadded⟩ := h
  rw [Akctl.activeGpus, hrows, List.filterMap_append]
  congr 1
  clear hrows
  induction hadded with
  | nil => rfl
  | @cons start e starts added hplanned _ ih =>
    have hactive := hplanned.active (hfiles start List.mem_cons_self)
    rw [List.filterMap_cons, hactive, List.map_cons, ← hplanned.gpu]
    simp only [if_true]
    rw [ih fun start hstart => hfiles start (List.mem_cons_of_mem _ hstart)]

theorem activeTotal_activeGpus (files : Files) (tasks : Dict TaskId Record) :
    activeTotal files tasks = (Akctl.activeGpus files tasks).length := by
  unfold activeTotal Table.count Akctl.activeGpus
  induction tasks.rows with
  | nil => rfl
  | cons e rows ih =>
    rw [List.countP_cons, List.filterMap_cons, ih]
    split <;> simp_all

theorem activeOn_activeGpus (files : Files) (tasks : Dict TaskId Record) (gpu : Int) :
    activeOn files tasks gpu = (Akctl.activeGpus files tasks).countP fun g => g.index = some gpu := by
  unfold activeOn Table.count Akctl.activeGpus
  induction tasks.rows with
  | nil => rfl
  | cons e rows ih =>
    rw [List.countP_cons, List.filterMap_cons, ih]
    cases hactive : e.2.active files <;> simp [List.countP_cons]

theorem occupiedSlots_activeGpus (files : Files) (tasks : Dict TaskId Record) :
    occupiedSlots files tasks = (Akctl.activeGpus files tasks).filterMap GpuField.place? := by
  unfold occupiedSlots Akctl.activeGpus
  rw [List.filterMap_filterMap]
  refine List.filterMap_congr fun e _ => ?_
  split <;> rfl

/-- Registries with the same active GPU fields give a patrol the same place. -/
theorem chooseAvailableSlot_congr {tasks tasks' : Dict TaskId Record} (hgpus : m.gpus = m₀.gpus)
    (hactive : Akctl.activeGpus m.files tasks = Akctl.activeGpus m₀.files tasks')
    (maxPerGpu : Int) :
    chooseAvailableSlot m tasks rows maxPerGpu = chooseAvailableSlot m₀ tasks' rows maxPerGpu := by
  have hon : ∀ gpu, activeOn m.files tasks gpu = activeOn m₀.files tasks' gpu := fun gpu => by
    rw [activeOn_activeGpus, activeOn_activeGpus, hactive]
  have hbefore : gpuBefore m.files tasks = gpuBefore m₀.files tasks' := by
    funext a b
    rw [gpuBefore, gpuBefore, hon, hon]
  have hinventory : gpuInventory m rows = gpuInventory m₀ rows := by
    rw [gpuInventory, gpuInventory, hgpus]
  have hoccupied : occupiedSlots m.files tasks = occupiedSlots m₀.files tasks' := by
    rw [occupiedSlots_activeGpus, occupiedSlots_activeGpus, hactive]
  unfold chooseAvailableSlot
  simp only [hon, hbefore, hinventory, hoccupied]

/-! ## The queue -/

/-- The queue depends on which tasks are registered and on what blocks the others. -/
theorem queueRows_congr {registered registered' : Dict TaskId Record}
    (hregistered : ∀ tid, (Dict.get? registered tid).isSome = (Dict.get? registered' tid).isSome)
    (hreason : ∀ row ∈ rows, ∀ task, findTask inst row.task = some task →
      (Dict.get? registered task.id).isSome = false →
        newTaskBlockReason m task = newTaskBlockReason m₀ task) (seen : List TaskId) :
    queueRows inst m registered seen rows = queueRows inst m₀ registered' seen rows := by
  induction rows generalizing seen with
  | nil => rfl
  | cons row rows ih =>
    have hrest := fun seen => ih (fun row' hrow' => hreason row' (List.mem_cons_of_mem _ hrow')) seen
    rw [queueRows, queueRows]
    cases hfind : findTask inst row.task with
    | none => rfl
    | some task =>
      dsimp only
      rw [← hregistered task.id]
      cases hsome : (Dict.get? registered task.id).isSome with
      | true => simp only [hrest, if_true]
      | false => rw [hreason row List.mem_cons_self task hfind hsome, hrest, hrest]

/-- The starts are of queued tasks that nothing blocked. -/
def Queued (inst : Installation) (rows : List QueueRow) (m₀ : Moment) (starts : List Start) : Prop :=
  ∀ start ∈ starts, ∃ row ∈ rows, ∃ task, findTask inst row.task = some task ∧
    findTask inst start.task = some task ∧ task.id = start.task ∧ newTaskBlockReason m₀ task = none

/-- Nothing has changed for a task that is not started. -/
theorem Undisturbed.newTaskBlockReason (h : Undisturbed inst m₀ registry starts m)
    (hown : OwnWorkspaces inst rows) (hqueued : Queued inst rows m₀ starts) {row : QueueRow}
    (hrow : row ∈ rows) {task : Task} (hfind : findTask inst row.task = some task)
    (hnew : ∀ start ∈ starts, start.task ≠ task.id) :
    newTaskBlockReason m task = newTaskBlockReason m₀ task := by
  have hworkspace : m.workspace task = m₀.workspace task := by
    rw [Bool.eq_iff_iff, h.workspace]
    refine or_iff_left ?_
    rintro ⟨start, hstart, started, hstarted, hpath⟩
    -- a workspace of the same name would be that of the same task
    obtain ⟨row', hrow', task', hfind', hself, hid, -⟩ := hqueued start hstart
    cases hself.symm.trans hstarted
    exact hnew start hstart (hid ▸ hown row' hrow' row hrow started task hfind' hfind hpath)
  unfold Akctl.newTaskBlockReason
  rw [h.legacyWorkspace, h.problem, hworkspace]

/-- The patrol finds the queue that the dry run finds. -/
theorem Undisturbed.queueState (h : Undisturbed inst m₀ registry starts m)
    (hown : OwnWorkspaces inst rows) (hqueued : Queued inst rows m₀ starts) {working' : Registry}
    (hgrown : Grown inst registry working starts) (hgrown' : Grown inst registry working' starts) :
    queueState inst m rows working = queueState inst m₀ rows working' := by
  refine queueRows_congr (fun tid => ?_) (fun row hrow task hfind hnone => ?_) []
  · rw [Bool.eq_iff_iff, hgrown.registered, hgrown'.registered]
  · refine h.newTaskBlockReason hown hqueued hrow hfind fun start hstart hid => ?_
    have hsome := (hgrown.registered task.id).mpr (Or.inr ⟨start, hstart, hid⟩)
    rw [hsome] at hnone
    cases hnone

theorem map_snd_cons_fst {x : Except String (List Item × List Skipped)} (item : Item) :
    (x.map fun (pending, blocked) => (item :: pending, blocked)).map Prod.snd = x.map Prod.snd := by
  cases x <;> rfl

theorem map_snd_cons_snd {x : Except String (List Item × List Skipped)} (skipped : Skipped) :
    (x.map fun (pending, blocked) => (pending, skipped :: blocked)).map Prod.snd
      = (x.map Prod.snd).map (skipped :: ·) := by
  cases x <;> rfl

/-- A started task was not blocked before. -/
theorem Queued.unblocked (h : Queued inst rows m₀ starts) {row : QueueRow} {task : Task}
    (hfind : findTask inst row.task = some task) {start : Start} (hstart : start ∈ starts)
    (hid : start.task = task.id) : newTaskBlockReason m₀ task = none := by
  obtain ⟨-, -, task', -, hself, -, hreason⟩ := h start hstart
  rw [hid, findTask_id hfind] at hself
  cases hself
  exact hreason

/-- What is blocked does not depend on the starts. -/
theorem Undisturbed.blocked (h : Undisturbed inst m₀ registry starts m)
    (hown : OwnWorkspaces inst rows) (hqueued : Queued inst rows m₀ starts)
    (hgrown : Grown inst registry working starts) {queue : List QueueRow} (hqueue : queue ⊆ rows)
    (seen : List TaskId) :
    (queueRows inst m working.tasks seen queue).map Prod.snd
      = (queueRows inst m₀ registry.tasks seen queue).map Prod.snd := by
  induction queue generalizing seen with
  | nil => rfl
  | cons row queue ih =>
    have hrest := fun seen => ih (fun row' hrow' => hqueue (List.mem_cons_of_mem _ hrow')) seen
    have hrow : row ∈ rows := hqueue List.mem_cons_self
    rw [queueRows, queueRows]
    cases hfind : findTask inst row.task with
    | none => rfl
    | some task =>
      dsimp only
      have hrest' := hrest (task.id :: seen)
      split
      · rw [map_snd_cons_snd, map_snd_cons_snd, hrest seen]
      cases hsome : (Dict.get? working.tasks task.id).isSome with
      | true =>
        rw [if_pos rfl]
        split
        · exact hrest'
        next hnew =>
        -- the task was pending and has been started
        obtain ⟨start, hstart, hid⟩ := ((hgrown.registered task.id).mp hsome).resolve_left hnew
        rw [hqueued.unblocked hfind hstart hid]
        dsimp only
        rw [map_snd_cons_fst, hrest']
      | false =>
        have hnone : ¬ (Dict.get? registry.tasks task.id).isSome = true := fun hold => by
          rw [(hgrown.registered task.id).mpr (Or.inl hold)] at hsome
          cases hsome
        have hreason := h.newTaskBlockReason hown hqueued hrow hfind fun start hstart hid => by
          rw [(hgrown.registered task.id).mpr (Or.inr ⟨start, hstart, hid⟩)] at hsome
          cases hsome
        rw [if_neg Bool.false_ne_true, if_neg hnone, hreason]
        cases Akctl.newTaskBlockReason m₀ task with
        | some reason =>
          dsimp only
          rw [map_snd_cons_snd, map_snd_cons_snd, hrest']
        | none =>
          dsimp only
          rw [map_snd_cons_fst, map_snd_cons_fst, hrest']

/-! ## In step -/

/-- The patrol has started what the dry run would start. -/
structure Follows (inst : Installation) (rows : List QueueRow) (m₀ : Moment) (registry : Registry)
    (dry real : Patrol) : Prop where
  starts : real.started = dry.wouldStart
  idle : dry.started = [] ∧ real.wouldStart = []
  skipped : real.skipped = dry.skipped
  errors : dry.errors = [] ∧ real.errors = []
  kept : dry.registry = registry ∧ real.working = real.registry
  grown : Grown inst registry dry.working dry.wouldStart
  grown' : Grown inst registry real.registry dry.wouldStart
  queued : Queued inst rows m₀ dry.wouldStart

/-- Both end in the same way. -/
inductive SameEnd (inst : Installation) (rows : List QueueRow) (m₀ : Moment) (registry : Registry) :
    Outcome → Outcome → Prop
  | report {dry real : Patrol} (h : Follows inst rows m₀ registry dry real) :
    SameEnd inst rows m₀ registry (.report dry) (.report real)
  | raised {dry real : Patrol} {error : String} (h : Follows inst rows m₀ registry dry real) :
    SameEnd inst rows m₀ registry (.raised dry error) (.raised real error)

section Steps

variable {dry real : Patrol}

theorem Follows.initial (registry : Registry) :
    Follows inst rows m₀ registry (.initial registry) (.initial registry) :=
  ⟨rfl, ⟨rfl, rfl⟩, rfl, ⟨rfl, rfl⟩, ⟨rfl, rfl⟩, .refl _, .refl _,
    fun _ h => absurd h List.not_mem_nil⟩

theorem Follows.addSkipped (h : Follows inst rows m₀ registry dry real) (item : Skipped) :
    Follows inst rows m₀ registry (dry.addSkipped item) (real.addSkipped item) := by
  obtain ⟨hstarts, hnone, hskipped, herrors, hregistry, hgrown, hgrown', hqueued⟩ := h
  unfold Patrol.addSkipped
  rw [hskipped]
  split
  · exact ⟨hstarts, hnone, hskipped, herrors, hregistry, hgrown, hgrown', hqueued⟩
  · exact ⟨hstarts, hnone, rfl, herrors, hregistry, hgrown, hgrown', hqueued⟩

theorem Follows.foldl_addSkipped (items : List Skipped)
    (h : Follows inst rows m₀ registry dry real) :
    Follows inst rows m₀ registry (items.foldl Patrol.addSkipped dry)
      (items.foldl Patrol.addSkipped real) := by
  induction items generalizing dry real with
  | nil => exact h
  | cons item items ih => exact ih (h.addSkipped item)

theorem unblocked_iff {task : Task} : newTaskBlockReason m task = none ↔
    m.legacyWorkspace task = false ∧ m.workspace task = false ∧ m.problem task = true := by
  unfold newTaskBlockReason
  cases m.legacyWorkspace task <;> cases m.workspace task <;> cases m.problem task <;> simp

/-- `start_task` of a task that nothing blocks. -/
theorem startTask_succeeds (h : Undisturbed inst m₀ registry starts m) {task : Task} {gpu : Gpu}
    {slot : Nat} {mode : String} (hfind : findTask inst task.id = some task)
    (hreason : newTaskBlockReason m task = none) (hnew : Dict.get? working.tasks task.id = none) :
    ∃ record, startTask inst m working task gpu slot mode
        = (.ok record, working.setTask task.id record) ∧
      Planned inst ⟨task.id, gpu.index, slot, mode⟩ (task.id, record) := by
  obtain ⟨worker, monitorWorker, loop, hattempt⟩ := h.succeeds
  obtain ⟨hlegacy, hworkspace, -⟩ := unblocked_iff.mp hreason
  unfold startTask
  rw [hlegacy, hnew, hworkspace, hattempt]
  exact ⟨_, rfl, rfl, ⟨task, hfind, rfl⟩, rfl, rfl, rfl⟩

/-- Both see the same active GPU fields. -/
theorem Follows.activeGpus (hfollows : Follows inst rows m₀ registry dry real)
    (hconsistent : m₀.Consistent inst) (h : Undisturbed inst m₀ registry real.started m) :
    activeGpus m.files real.working.tasks = activeGpus m₀.files dry.working.tasks := by
  have hbefore : Akctl.activeGpus m.files registry.tasks = Akctl.activeGpus m₀.files registry.tasks := by
    refine List.filterMap_congr fun e he => ?_
    have hstatus := h.status e.1 e.2 (Dict.mem_rows_iff.mp he)
    rw [Record.active, Record.active, hstatus]
  rw [hfollows.kept.2, hfollows.grown'.activeGpus fun start hstart task hfind => Or.inr
      (h.created start (hfollows.starts ▸ hstart) task hfind),
    hfollows.grown.activeGpus fun start hstart task hfind => Or.inl ?_, hbefore]
  obtain ⟨-, -, task', -, hself, -, hreason⟩ := hfollows.queued start hstart
  cases hself.symm.trans hfind
  exact hconsistent task (unblocked_iff.mp hreason).2.1

/-- The fake record and the new one are of the same start. -/
theorem follows_tryStart (hfollows : Follows inst rows m₀ registry dry real)
    (h : Undisturbed inst m₀ registry real.started m) {item : Item} {gpu : Gpu} {slot : Nat}
    {row : QueueRow} (hrow : row ∈ rows) {task : Task} (hfind : findTask inst row.task = some task)
    (hid : item.task = task.id) (hnew : Dict.get? dry.working.tasks task.id = none)
    (hreason : newTaskBlockReason m₀ task = none) (hreason' : newTaskBlockReason m task = none) :
    Step.Related (Follows inst rows m₀ registry) (SameEnd inst rows m₀ registry)
      (tryStart inst { args with dryRun := true } m₀ dry item gpu slot)
      (tryStart inst { args with dryRun := false } m real item gpu slot) := by
  have hself : findTask inst task.id = some task := findTask_id hfind
  have hnew' : Dict.get? real.registry.tasks task.id = none := by
    have hsome := (hfollows.grown'.registered task.id).trans (hfollows.grown.registered task.id).symm
    rw [hnew, ← not_iff_not] at hsome
    simpa using hsome
  unfold tryStart
  rw [hid, hself]
  dsimp only
  have hsucceeds (mode : String) : ∃ record, startTask inst m real.registry task gpu slot mode
      = (.ok record, real.registry.setTask task.id record) ∧
      Planned inst ⟨task.id, gpu.index, slot, mode⟩ (task.id, record) :=
    startTask_succeeds h hself hreason' hnew'
  obtain ⟨record, hstart, hplanned⟩ :=
    hsucceeds (orElse args.monitorMode (orElse item.monitorMode inst.defaultMonitorMode))
  rw [if_pos rfl, if_neg Bool.false_ne_true, hstart]
  refine .next ⟨?_, hfollows.idle, hfollows.skipped, hfollows.errors, ⟨hfollows.kept.1, rfl⟩,
    hfollows.grown.add hnew ⟨rfl, ⟨task, hself, rfl⟩, rfl, rfl, rfl⟩,
    hfollows.grown'.add hnew' hplanned, ?_⟩
  · dsimp only
    rw [hfollows.starts]
  · intro start hstart
    rcases List.mem_append.mp hstart with hstart | hstart
    · exact hfollows.queued start hstart
    · cases List.mem_singleton.mp hstart
      exact ⟨row, hrow, task, hfind, hself, rfl, hreason⟩

/-- An iteration of the dry run is one of the patrol. -/
theorem follows_body (hfollows : Follows inst rows m₀ registry dry real)
    (hconsistent : m₀.Consistent inst) (hown : OwnWorkspaces inst rows) {moments : Nat → Moment}
    {i : Nat} (h : Undisturbed inst m₀ registry real.started (moments i)) :
    Step.Related (Follows inst rows m₀ registry) (SameEnd inst rows m₀ registry)
      (patrolBody inst { args with dryRun := true } rows (fun _ => m₀) i dry)
      (patrolBody inst { args with dryRun := false } rows moments i real) := by
  have hgpus := hfollows.activeGpus hconsistent h
  have hcount : real.started.length + real.wouldStart.length
      = dry.started.length + dry.wouldStart.length := by
    rw [hfollows.starts, hfollows.idle.1, hfollows.idle.2]
    exact Nat.add_comm _ _
  have htotal : activeTotal (moments i).files real.working.tasks
      = activeTotal m₀.files dry.working.tasks := by
    rw [activeTotal_activeGpus, activeTotal_activeGpus, hgpus]
  have hqueue : queueState inst (moments i) rows real.working
      = queueState inst m₀ rows dry.working :=
    h.queueState hown (hfollows.starts ▸ hfollows.queued)
      (hfollows.kept.2 ▸ hfollows.starts ▸ hfollows.grown')
      (hfollows.starts ▸ hfollows.grown)
  have hplace : chooseAvailableSlot (moments i) real.working.tasks rows args.limits.maxPerGpu
      = chooseAvailableSlot m₀ dry.working.tasks rows args.limits.maxPerGpu :=
    chooseAvailableSlot_congr h.gpus hgpus _
  unfold patrolBody
  dsimp only
  rw [hcount, htotal, hqueue, hplace]
  split
  · exact .done (.report hfollows)
  split
  · exact .done (.report (hfollows.addSkipped _))
  cases hstate : queueState inst m₀ rows dry.working with
  | error error => exact .done (.raised hfollows)
  | ok queue =>
    obtain ⟨pending, blocked⟩ := queue
    have hfollows' := hfollows.foldl_addSkipped blocked
    cases pending with
    | nil => exact .done (.report hfollows')
    | cons item items =>
      dsimp only
      cases chooseAvailableSlot m₀ dry.working.tasks rows args.limits.maxPerGpu with
      | none => exact .done (.report (hfollows'.addSkipped _))
      | some place =>
        obtain ⟨row, hrow, task, hfind, hid, hnew, hreason⟩ := mem_pending hstate List.mem_cons_self
        have hreason' : newTaskBlockReason (moments i) task = none := by
          rw [h.newTaskBlockReason hown (hfollows.starts ▸ hfollows.queued) hrow hfind, hreason]
          intro start hstart hstarted
          have hsome := (hfollows.grown.registered task.id).mpr
            (Or.inr ⟨start, hfollows.starts ▸ hstart, hstarted⟩)
          rw [hnew] at hsome
          cases hsome
        have hkept := foldl_addSkipped_kept blocked dry
        have hkept' := foldl_addSkipped_kept blocked real
        rw [← hkept'.2.2.1] at h
        rw [← hkept.2.1] at hnew
        exact follows_tryStart hfollows' h hrow hfind hid hnew hreason hreason'

end Steps

/-! ## Runs -/

/-- While every start succeeds and no status changes, a patrol starts what the dry run would start, at
the same places and in the same order, and reports the same blocked tasks. -/
theorem dry_run_is_plan (inst : Installation) (args : PatrolArgs) (rows : List QueueRow)
    (m₀ : Moment) (registry : Registry) (moments : Nat → Moment) (hconsistent : m₀.Consistent inst)
    (hown : OwnWorkspaces inst rows)
    (hreal : ∀ i p, Reaches (patrolBody inst { args with dryRun := false } rows moments)
      (.initial registry) i p → Undisturbed inst m₀ registry p.started (moments i)) :
    ∃ dry real,
      runPatrol inst { args with dryRun := true } rows (fun _ => m₀) (patrolFuel args rows) registry
        = some dry ∧
      runPatrol inst { args with dryRun := false } rows moments (patrolFuel args rows) registry
        = some real ∧
      real.patrol.started = dry.patrol.wouldStart ∧ real.patrol.skipped = dry.patrol.skipped ∧
      dry.patrol.errors = [] ∧ real.patrol.errors = [] ∧
      ∀ m, Undisturbed inst m₀ registry real.patrol.started m →
        finalBlocked inst m rows real.patrol = finalBlocked inst m₀ rows dry.patrol := by
  obtain ⟨dry, -, hdry, -⟩ :=
    patrol_ends inst { args with dryRun := true } rows (fun _ => m₀) registry
  have hstep : ∀ i dry real,
      Reaches (patrolBody inst { args with dryRun := false } rows moments) (.initial registry) i real ∧
        Follows inst rows m₀ registry dry real →
      Step.Related
        (fun dry real =>
          Reaches (patrolBody inst { args with dryRun := false } rows moments) (.initial registry)
            (i + 1) real ∧ Follows inst rows m₀ registry dry real)
        (SameEnd inst rows m₀ registry)
        (patrolBody inst { args with dryRun := true } rows (fun _ => m₀) i dry)
        (patrolBody inst { args with dryRun := false } rows moments i real) :=
    fun i dry real hrelated =>
      (follows_body hrelated.2 hconsistent hown (hreal i real hrelated.1)).imp
        fun _ _ _ hnext hfollows => ⟨hrelated.1.next hnext, hfollows⟩
  obtain ⟨real, hrun, hend⟩ := loop_related hstep ⟨.start, .initial registry⟩ hdry
  have hfollows : Follows inst rows m₀ registry dry.patrol real.patrol := by
    cases hend with
    | report h => exact h
    | raised h => exact h
  refine ⟨dry, real, hdry, hrun, hfollows.starts, hfollows.skipped, hfollows.errors.1,
    hfollows.errors.2, fun m h => ?_⟩
  rw [finalBlocked, finalBlocked, hfollows.kept.1]
  exact h.blocked hown (hfollows.starts ▸ hfollows.queued) (hfollows.starts ▸ hfollows.grown')
    (List.Subset.refl rows) []

section Examples

/-- `B` is queued and nothing stands in its way. -/
def free : Moment := { smoothMoment with files := fun _ => .absent }

/-- `B` has been started. -/
def withB : Moment :=
  { free with
    files := fun path => if path = "workspaces/B" then .state (some "starting") else .absent
    workspace := fun task => twoTasks.workspacePath task = "workspaces/B" }

def freeThenB : Nat → Moment
  | 0 => free
  | _ + 1 => withB

/-- The iteration is the last. -/
def ends : Step Patrol Outcome → Bool
  | .next _ => false
  | .done _ => true

/-- The patrol starts `B` and ends. -/
theorem reaches_freeThenB {i : Nat} {p : Patrol}
    (h : Reaches (patrolBody twoTasks narrow oneQueued freeThenB) (.initial oneActive) i p) :
    i = 0 ∧ p.started = [] ∨ i = 1 ∧ p.started = [⟨"B", 0, 1, "active"⟩] := by
  have hall : i = 0 ∧ p = .initial oneActive ∨
      i = 1 ∧ p = afterStep (patrolBody twoTasks narrow oneQueued freeThenB 0 (.initial oneActive)) := by
    induction h with
    | start => exact Or.inl ⟨rfl, rfl⟩
    | next _ hbody ih =>
      rcases ih with ⟨rfl, rfl⟩ | ⟨rfl, rfl⟩
      · exact Or.inr ⟨rfl, by rw [hbody]; rfl⟩
      · have hends : ends (patrolBody twoTasks narrow oneQueued freeThenB 1
            (afterStep (patrolBody twoTasks narrow oneQueued freeThenB 0 (.initial oneActive))))
            = true := by decide +kernel
        rw [hbody] at hends
        cases hends
  rcases hall with ⟨hi, rfl⟩ | ⟨hi, rfl⟩
  · exact Or.inl ⟨hi, rfl⟩
  · exact Or.inr ⟨hi, by decide +kernel⟩

theorem undisturbed_free : Undisturbed twoTasks free oneActive [] free where
  legacyWorkspace := rfl
  problem := rfl
  gpus := rfl
  workspace task := by simp
  status _ _ _ := rfl
  created _ h := absurd h List.not_mem_nil
  succeeds := ⟨_, _, _, rfl⟩

theorem undisturbed_withB :
    Undisturbed twoTasks free oneActive [⟨"B", 0, 1, "active"⟩] withB where
  legacyWorkspace := rfl
  problem := rfl
  gpus := rfl
  workspace task := by
    have hfind : findTask twoTasks "B" = some ⟨"B", "b"⟩ := by decide +kernel
    have hpath : twoTasks.workspacePath ⟨"B", "b"⟩ = "workspaces/B" := by decide +kernel
    simp [withB, free, smoothMoment, hfind, hpath, eq_comm]
  status tid record hget := by
    rw [oneActive, Dict.get?_set] at hget
    split at hget
    · cases hget
      decide +kernel
    · cases hget
  created start hstart started hfind := by
    cases List.mem_singleton.mp hstart
    have hB : findTask twoTasks "B" = some ⟨"B", "b"⟩ := by decide +kernel
    cases hB.symm.trans hfind
    decide +kernel
  succeeds := ⟨_, _, _, rfl⟩

theorem dry_run_is_plan_narrow :
    ∃ dry real,
      runPatrol twoTasks { narrow with dryRun := true } oneQueued (fun _ => free)
        (patrolFuel narrow oneQueued) oneActive = some dry ∧
      runPatrol twoTasks narrow oneQueued freeThenB (patrolFuel narrow oneQueued) oneActive
        = some real ∧
      real.patrol.started = dry.patrol.wouldStart := by
  have hown : OwnWorkspaces twoTasks oneQueued := by
    intro row hrow row' hrow' task task' hfind hfind' _
    cases List.mem_singleton.mp hrow
    cases List.mem_singleton.mp hrow'
    cases hfind.symm.trans hfind'
    rfl
  have hreal : ∀ i p, Reaches (patrolBody twoTasks narrow oneQueued freeThenB) (.initial oneActive) i p →
      Undisturbed twoTasks free oneActive p.started (freeThenB i) := by
    intro i p h
    rcases reaches_freeThenB h with ⟨rfl, hp⟩ | ⟨rfl, hp⟩ <;> rw [hp]
    · exact undisturbed_free
    · exact undisturbed_withB
  obtain ⟨dry, real, hdry, hrun, hstarts, -⟩ :=
    dry_run_is_plan twoTasks narrow oneQueued free oneActive freeThenB (fun _ _ => rfl) hown hreal
  exact ⟨dry, real, hdry, hrun, hstarts⟩

end Examples

end Akctl
