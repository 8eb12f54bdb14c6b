import KerSorMonitor.Akctl.Patrol

/-!
# A patrol keeps the limits

The working copy covers the registry: each registered task is in it with the same place and the
same source of its status. So a place that is free in the copy is free in the registry, and a count
that leaves room in the copy leaves room in the registry, whatever fake records the copy has.

Results: `moved_of_body`, all that an iteration can do; `patrol_respects_limits`.
-/

namespace Akctl

open Keyed Loops

variable {inst : Installation} {args : PatrolArgs} {rows : List QueueRow} {m : Moment}
  {p p' : Patrol}

/-! ## What an iteration can do -/

/-- The task and the place that an iteration has chosen. -/
structure Chosen (inst : Installation) (args : PatrolArgs) (rows : List QueueRow) (m : Moment)
    (p : Patrol) (task : Task) (gpu : Gpu) (slot : Nat) : Prop where
  starts : ((p.started.length + p.wouldStart.length : Nat) : Int) < max 0 args.limits.maxStarts
  total : 0 < args.limits.maxActive →
    (activeTotal m.files p.working.tasks : Int) < args.limits.maxActive
  row : ∃ row ∈ rows, findTask inst row.task = some task
  new : Dict.get? p.working.tasks task.id = none
  gpuRoom : (activeOn m.files p.working.tasks gpu.index : Int) < args.limits.maxPerGpu
  free : (gpu.index, (slot : Int)) ∉ occupiedSlots m.files p.working.tasks

/-- What an iteration did; `goes` says that the patrol goes on. -/
inductive Moved (inst : Installation) (args : PatrolArgs) (rows : List QueueRow) (m : Moment)
    (p p' : Patrol) (goes : Prop) : Prop
  | ended (h : ¬ goes) (registry : p'.registry = p.registry) (started : p'.started = p.started)
      (wouldStart : p'.wouldStart = p.wouldStart)
  | dryRun {task : Task} {gpu : Gpu} {slot : Nat} (h : Chosen inst args rows m p task gpu slot)
      (registry : p'.registry = p.registry)
      (working : ∃ mode, p'.working = addFakeActiveRecord inst p.working task gpu slot mode)
      (started : p'.started = p.started) (wouldStart : p'.wouldStart.length = p.wouldStart.length + 1)
  | started {task : Task} {gpu : Gpu} {slot : Nat} (h : Chosen inst args rows m p task gpu slot)
      (new : Dict.get? p.registry.tasks task.id = none) {record : Record}
      (smoke : record.smoke = false) (place : record.gpu = ⟨some gpu.index, some slot⟩)
      (registry : p'.registry = p.registry.setTask task.id record)
      (working : p'.working = p'.registry)
      (started : ∃ start, start.task = task.id ∧ p'.started = p.started ++ [start])
      (wouldStart : p'.wouldStart = p.wouldStart)
  | failed {task : Task} {gpu : Gpu} {slot : Nat} (h : Chosen inst args rows m p task gpu slot)
      (registry : p'.registry = p.registry ∨ Dict.get? p.registry.tasks task.id = none ∧
        ∃ mode worker, p'.registry =
          p.registry.setTask task.id (newRecord inst task gpu slot mode worker))
      (working : goes → ∃ mode, p'.working = addFakeActiveRecord inst p.working task gpu slot mode)
      (started : p'.started = p.started) (wouldStart : p'.wouldStart = p.wouldStart)

/-- The patrol after an iteration, whether it goes on or not. -/
def afterStep : Step Patrol Outcome → Patrol
  | .next p => p
  | .done o => o.patrol

/-- An iteration goes on. -/
def Goes : Step Patrol Outcome → Prop
  | .next _ => True
  | .done _ => False

theorem addSkipped_kept (p : Patrol) (item : Skipped) : (p.addSkipped item).registry = p.registry ∧
    (p.addSkipped item).working = p.working ∧ (p.addSkipped item).started = p.started ∧
    (p.addSkipped item).wouldStart = p.wouldStart := by
  unfold Patrol.addSkipped
  split <;> exact ⟨rfl, rfl, rfl, rfl⟩

theorem foldl_addSkipped_kept (items : List Skipped) (p : Patrol) :
    (items.foldl Patrol.addSkipped p).registry = p.registry ∧
      (items.foldl Patrol.addSkipped p).working = p.working ∧
      (items.foldl Patrol.addSkipped p).started = p.started ∧
      (items.foldl Patrol.addSkipped p).wouldStart = p.wouldStart := by
  induction items generalizing p with
  | nil => exact ⟨rfl, rfl, rfl, rfl⟩
  | cons item items ih =>
    obtain ⟨h₁, h₂, h₃, h₄⟩ := ih (p.addSkipped item)
    obtain ⟨k₁, k₂, k₃, k₄⟩ := addSkipped_kept p item
    exact ⟨h₁.trans k₁, h₂.trans k₂, h₃.trans k₃, h₄.trans k₄⟩

/-- What `start_task` does to the registry. -/
theorem startTask_cases {registry : Registry} {task : Task} {gpu : Gpu} {slot : Nat} {mode : String}
    {r : Except String Record} {registry' : Registry}
    (h : startTask inst m registry task gpu slot mode = (r, registry')) :
    (∃ record, r = .ok record ∧ Dict.get? registry.tasks task.id = none ∧ record.smoke = false ∧
      record.gpu = ⟨some gpu.index, some slot⟩ ∧ registry' = registry.setTask task.id record) ∨
    (∃ error, r = .error error) ∧ (registry' = registry ∨
      Dict.get? registry.tasks task.id = none ∧ ∃ mode worker,
        registry' = registry.setTask task.id (newRecord inst task gpu slot mode worker)) := by
  unfold startTask at h
  split at h
  · cases h
    exact Or.inr ⟨⟨_, rfl⟩, Or.inl rfl⟩
  split at h
  · cases h
    exact Or.inr ⟨⟨_, rfl⟩, Or.inl rfl⟩
  next hnew =>
  have hnone : Dict.get? registry.tasks task.id = none := by simpa using hnew
  split at h
  · cases h
    exact Or.inr ⟨⟨_, rfl⟩, Or.inl rfl⟩
  split at h
  · cases h
    exact Or.inl ⟨_, rfl, hnone, rfl, rfl, rfl⟩
  · cases h
    exact Or.inr ⟨⟨_, rfl⟩, Or.inl rfl⟩
  · cases h
    exact Or.inr ⟨⟨_, rfl⟩, Or.inr ⟨hnone, mode, _, rfl⟩⟩

/-- The `try` of an iteration, for a task that was found pending. -/
theorem moved_of_tryStart {p₀ : Patrol} {item : Item} {task : Task} {gpu : Gpu} {slot : Nat}
    (hkept : p₀.registry = p.registry ∧ p₀.working = p.working ∧ p₀.started = p.started ∧
      p₀.wouldStart = p.wouldStart)
    (hfind : findTask inst item.task = some task)
    (h : Chosen inst args rows m p task gpu slot) :
    Moved inst args rows m p (afterStep (tryStart inst args m p₀ item gpu slot))
      (Goes (tryStart inst args m p₀ item gpu slot)) := by
  obtain ⟨hregistry, hworking, hstarted, hwould⟩ := hkept
  unfold tryStart
  rw [hfind]
  dsimp only
  split
  · exact .dryRun h hregistry ⟨_, by rw [← hworking]; rfl⟩ hstarted (by
      simp [afterStep, hwould])
  · split
    · next record registry' hstart =>
      rcases startTask_cases hstart with ⟨record', -, hnew, hsmoke, hplace, hreg⟩ | ⟨⟨_, he⟩, -⟩
      · rw [hregistry] at hnew hreg
        exact .started h hnew hsmoke hplace hreg rfl ⟨_, rfl, by rw [← hstarted]; rfl⟩ hwould
      · cases he
    · next error registry' hstart =>
      rcases startTask_cases hstart with ⟨_, he, -⟩ | ⟨-, hreg⟩
      · cases he
      · rw [hregistry] at hreg
        split
        · exact .failed h hreg (fun _ => ⟨_, by rw [← hworking]; rfl⟩) hstarted hwould
        · exact .failed h hreg (fun hgoes => hgoes.elim) hstarted hwould

/-- All that an iteration can do. -/
theorem moved_of_body (inst : Installation) (args : PatrolArgs) (rows : List QueueRow)
    (moments : Nat → Moment) (i : Nat) (p : Patrol) :
    Moved inst args rows (moments i) p (afterStep (patrolBody inst args rows moments i p))
      (Goes (patrolBody inst args rows moments i p)) := by
  unfold patrolBody
  dsimp only
  split
  · exact .ended id rfl rfl rfl
  next hstarts =>
  split
  · obtain ⟨h₁, -, h₃, h₄⟩ := addSkipped_kept p _
    exact .ended id h₁ h₃ h₄
  next htotal =>
  split
  · exact .ended id rfl rfl rfl
  next pending blocked hqueue =>
  have hfold := foldl_addSkipped_kept blocked p
  split
  · exact .ended id hfold.1 hfold.2.2.1 hfold.2.2.2
  next item items =>
  split
  · obtain ⟨h₁, -, h₃, h₄⟩ := addSkipped_kept (blocked.foldl Patrol.addSkipped p) _
    exact .ended id (h₁.trans hfold.1) (h₃.trans hfold.2.2.1) (h₄.trans hfold.2.2.2)
  next gpu slot hchosen =>
  obtain ⟨row, hrow, task, hfind, hid, hnew, -⟩ := mem_pending hqueue List.mem_cons_self
  obtain ⟨hroom, hfree⟩ := chosen_free hchosen
  refine moved_of_tryStart hfold (by rw [hid]; exact findTask_id hfind) ?_
  refine ⟨Int.not_le.mp hstarts, fun hpos => ?_, ⟨row, hrow, hfind⟩, hnew, hroom, hfree⟩
  exact Int.not_le.mp fun hle => htotal ⟨hpos, hle⟩

/-! ## Covering -/

/-- Two records of one task have the same place and the same source of their status. -/
structure SamePlace (record record' : Record) : Prop where
  workspace : record'.workspace = record.workspace
  status : record'.status = record.status
  smoke : record'.smoke = record.smoke
  gpu : record'.gpu = record.gpu

theorem SamePlace.active {record record' : Record} (h : SamePlace record record') (files : Files) :
    record'.active files = record.active files := by
  unfold Record.active taskStatus
  rw [h.workspace, h.status, h.smoke]

/-- Each registered task is in the working copy too. -/
def Covers (working registry : Registry) : Prop :=
  ∀ tid record, Dict.get? registry.tasks tid = some record →
    ∃ record', Dict.get? working.tasks tid = some record' ∧ SamePlace record record'

theorem Covers.refl (registry : Registry) : Covers registry registry := fun _ record h =>
  ⟨record, h, rfl, rfl, rfl, rfl⟩

/-- A task that the working copy did not have is added to it, and maybe to the registry. -/
theorem Covers.add {working registry : Registry} (h : Covers working registry) {tid : TaskId}
    {record : Record} (hnew : Dict.get? working.tasks tid = none) {registry' : Registry}
    (hregistry : registry' = registry ∨
      ∃ record', SamePlace record' record ∧ registry' = registry.setTask tid record') :
    Covers (working.setTask tid record) registry' := by
  have hold : ∀ tid' record', Dict.get? registry.tasks tid' = some record' →
      ∃ record'', Dict.get? (working.setTask tid record).tasks tid' = some record'' ∧
        SamePlace record' record'' := by
    intro tid' record' hget
    obtain ⟨record'', hget', hsame⟩ := h tid' record' hget
    have hne : tid' ≠ tid := by
      rintro rfl
      rw [hnew] at hget'
      cases hget'
    exact ⟨record'', by rw [get?_setTask, if_neg hne, hget'], hsame⟩
  rcases hregistry with rfl | ⟨record', hsame, rfl⟩
  · exact hold
  · intro tid' record'' hget
    rw [get?_setTask] at hget
    split at hget
    · next heq =>
      subst heq
      cases hget
      exact ⟨record, by rw [get?_setTask, if_pos rfl], hsame⟩
    · exact hold tid' record'' hget

/-! ## Limits -/

/-- The registry respects the limits. -/
structure Respects (limits : Limits) (files : Files) (tasks : Dict TaskId Record) : Prop where
  total : 0 < limits.maxActive → (activeTotal files tasks : Int) ≤ limits.maxActive
  perGpu : ∀ gpu, (activeOn files tasks gpu : Int) ≤ limits.maxPerGpu
  places : ∀ tid tid' record record' place, Dict.get? tasks tid = some record →
    Dict.get? tasks tid' = some record' → record.active files = true →
      record'.active files = true → record.gpu.place? = some place →
        record'.gpu.place? = some place → tid = tid'

/-- No two active tasks have the same place. -/
def OnePerSlot (files : Files) (tasks : Dict TaskId Record) : Prop :=
  ∀ tid tid' record record' place, Dict.get? tasks tid = some record →
    Dict.get? tasks tid' = some record' → record.active files = true →
      record'.active files = true → record.gpu.place? = some place →
        record'.gpu.place? = some place → tid = tid'

/-- Tasks may have ended in the meantime. -/
def Settles (files files' : Files) (tasks : Dict TaskId Record) : Prop :=
  ∀ tid record, Dict.get? tasks tid = some record → record.active files' = true →
    record.active files = true

section Counts

variable {files files' : Files} {tasks : Dict TaskId Record}

/-- Each record was there before with the same place, and active if it is so now. -/
theorem OnePerSlot.of_records {tasks' : Dict TaskId Record} (h : OnePerSlot files tasks)
    (hrecords : ∀ tid record', Dict.get? tasks' tid = some record' →
      ∃ record, Dict.get? tasks tid = some record ∧ record.gpu = record'.gpu ∧
        (record'.active files' = true → record.active files = true)) : OnePerSlot files' tasks' := by
  intro tid₁ tid₂ r₁ r₂ place h₁ h₂ ha₁ ha₂ hp₁ hp₂
  obtain ⟨q₁, hq₁, hgpu₁, hactive₁⟩ := hrecords tid₁ r₁ h₁
  obtain ⟨q₂, hq₂, hgpu₂, hactive₂⟩ := hrecords tid₂ r₂ h₂
  exact h tid₁ tid₂ q₁ q₂ place hq₁ hq₂ (hactive₁ ha₁) (hactive₂ ha₂)
    (by rw [hgpu₁]; exact hp₁) (by rw [hgpu₂]; exact hp₂)

theorem OnePerSlot.later (h : OnePerSlot files tasks) (hsettles : Settles files files' tasks) :
    OnePerSlot files' tasks :=
  h.of_records fun tid record hget => ⟨record, hget, rfl, hsettles tid record hget⟩

theorem Settles.total_le (h : Settles files files' tasks) :
    activeTotal files' tasks ≤ activeTotal files tasks :=
  Dict.count_le_add [] fun tid record hget ha => Or.inr ⟨record, hget, h tid record hget ha⟩

theorem Settles.on_le (h : Settles files files' tasks) (gpu : Int) :
    activeOn files' tasks gpu ≤ activeOn files tasks gpu := by
  refine Dict.count_le_add [] fun tid record hget ha => Or.inr ⟨record, hget, ?_⟩
  rw [Bool.and_eq_true] at ha ⊢
  exact ⟨h tid record hget ha.1, ha.2⟩

theorem Respects.later {limits : Limits} (h : Respects limits files tasks)
    (hsettles : Settles files files' tasks) : Respects limits files' tasks := by
  refine ⟨fun hpos => ?_, fun gpu => ?_, OnePerSlot.later h.places hsettles⟩
  · have hle := hsettles.total_le
    have := h.total hpos
    omega
  · have hle := hsettles.on_le gpu
    have := h.perGpu gpu
    omega

variable {registry : Registry} {gpu slot : Int} (tid : TaskId) {record : Record}

/-- A record adds one to the total at most. -/
theorem activeTotal_setTask_le (files : Files) (registry : Registry) (record : Record) :
    activeTotal files (registry.setTask tid record).tasks ≤ activeTotal files registry.tasks + 1 := by
  refine Dict.count_le_add [tid] fun tid' record' hget ha => ?_
  rw [get?_setTask] at hget
  split at hget
  · next heq => exact Or.inl (List.mem_singleton.mpr heq)
  · exact Or.inr ⟨record', hget, ha⟩

/-- It adds one at most to the count of its GPU, and nothing to that of another. -/
theorem activeOn_setTask_le (files : Files) (registry : Registry) (hgpu : record.gpu.index = some gpu)
    (gpu' : Int) : activeOn files (registry.setTask tid record).tasks gpu' ≤
      activeOn files registry.tasks gpu' + if gpu' = gpu then 1 else 0 := by
  by_cases h : gpu' = gpu
  · rw [if_pos h]
    refine Dict.count_le_add [tid] fun tid' record' hget ha => ?_
    rw [get?_setTask] at hget
    split at hget
    · next heq => exact Or.inl (List.mem_singleton.mpr heq)
    · exact Or.inr ⟨record', hget, ha⟩
  · rw [if_neg h]
    refine Dict.count_le_add [] fun tid' record' hget ha => Or.inr ?_
    rw [get?_setTask] at hget
    split at hget
    · cases hget
      simp [hgpu, Ne.symm h] at ha
    · exact ⟨record', hget, ha⟩

/-- A record at a free place. -/
theorem OnePerSlot.set (h : OnePerSlot files registry.tasks)
    (hfree : (gpu, slot) ∉ occupiedSlots files registry.tasks)
    (hplace : record.gpu = ⟨some gpu, some slot⟩) :
    OnePerSlot files (registry.setTask tid record).tasks := by
  have hother : ∀ tid' record', Dict.get? registry.tasks tid' = some record' →
      record'.active files = true → record'.gpu.place? ≠ some (gpu, slot) :=
    fun tid' record' hget ha hsame => hfree (mem_occupiedSlots.mpr ⟨tid', record', hget, ha, hsame⟩)
  have hrecord : record.gpu.place? = some (gpu, slot) := by
    rw [hplace]
    rfl
  intro tid₁ tid₂ r₁ r₂ place h₁ h₂ ha₁ ha₂ hp₁ hp₂
  rw [get?_setTask] at h₁ h₂
  split at h₁
  · next heq₁ =>
    split at h₂
    · next heq₂ => exact heq₁.trans heq₂.symm
    · cases h₁
      rw [hrecord] at hp₁
      exact absurd (hp₁ ▸ hp₂) (hother tid₂ r₂ h₂ ha₂)
  · split at h₂
    · cases h₂
      rw [hrecord] at hp₂
      exact absurd (hp₂ ▸ hp₁) (hother tid₁ r₁ h₁ ha₁)
    · exact h tid₁ tid₂ r₁ r₂ place h₁ h₂ ha₁ ha₂ hp₁ hp₂

/-- A count in the registry is at most the count in a copy that covers it. -/
theorem Covers.count_le {working registry : Registry} (h : Covers working registry) (files : Files) :
    activeTotal files registry.tasks ≤ activeTotal files working.tasks ∧
      ∀ gpu, activeOn files registry.tasks gpu ≤ activeOn files working.tasks gpu := by
  refine ⟨Dict.count_le_add [] fun tid record hget ha => ?_, fun gpu =>
    Dict.count_le_add [] fun tid record hget ha => ?_⟩
  · obtain ⟨record', hget', hsame⟩ := h tid record hget
    exact Or.inr ⟨record', hget', (hsame.active files).trans ha⟩
  · obtain ⟨record', hget', hsame⟩ := h tid record hget
    exact Or.inr ⟨record', hget', by rw [hsame.active files, hsame.gpu]; exact ha⟩

/-- A place that is free in the copy is free in the registry. -/
theorem Covers.free {working registry : Registry} (h : Covers working registry)
    (hfree : (gpu, slot) ∉ occupiedSlots files working.tasks) :
    (gpu, slot) ∉ occupiedSlots files registry.tasks := by
  intro hmem
  obtain ⟨tid, record, hget, ha, hplace⟩ := mem_occupiedSlots.mp hmem
  obtain ⟨record', hget', hsame⟩ := h tid record hget
  refine hfree (mem_occupiedSlots.mpr ⟨tid, record', hget', (hsame.active files).trans ha, ?_⟩)
  rw [hsame.gpu]
  exact hplace

/-- A new task at a place that is free in the copy. -/
theorem Respects.add {limits : Limits} {working : Registry}
    (h : Respects limits files registry.tasks) (hcovers : Covers working registry)
    (htotal : 0 < limits.maxActive → (activeTotal files working.tasks : Int) < limits.maxActive)
    (hroom : (activeOn files working.tasks gpu : Int) < limits.maxPerGpu)
    (hfree : (gpu, slot) ∉ occupiedSlots files working.tasks)
    (hplace : record.gpu = ⟨some gpu, some slot⟩) :
    Respects limits files (registry.setTask tid record).tasks := by
  obtain ⟨hcount, hcountOn⟩ := hcovers.count_le files
  refine ⟨fun hpos => ?_, fun gpu' => ?_, OnePerSlot.set tid h.places (hcovers.free hfree) hplace⟩
  · have hle := activeTotal_setTask_le tid files registry record
    have := htotal hpos
    omega
  · have hle := activeOn_setTask_le tid files registry (congrArg GpuField.index hplace) gpu'
    have hon := hcountOn gpu'
    have hold := h.perGpu gpu'
    split at hle
    · next heq =>
      subst heq
      omega
    · omega

end Counts

/-! ## The invariant -/

/-- What holds of the tasks that a patrol has started. -/
structure StartsInv (args : PatrolArgs) (p : Patrol) : Prop where
  nodup : (p.started.map Start.task).Nodup
  known : ∀ start ∈ p.started, (Dict.get? p.registry.tasks start.task).isSome
  count : ((p.started.length + p.wouldStart.length : Nat) : Int) ≤ max 0 args.limits.maxStarts

theorem isSome_setTask {registry : Registry} {tid tid' : TaskId} {record : Record}
    (h : (Dict.get? registry.tasks tid').isSome) :
    (Dict.get? (registry.setTask tid record).tasks tid').isSome := by
  rw [get?_setTask]
  split
  · rfl
  · exact h

theorem StartsInv.moved {goes : Prop} (h : StartsInv args p)
    (hmoved : Moved inst args rows m p p' goes) : StartsInv args p' := by
  cases hmoved with
  | ended _ hregistry hstarted hwould =>
    exact ⟨hstarted ▸ h.nodup, by rw [hstarted, hregistry]; exact h.known,
      by rw [hstarted, hwould]; exact h.count⟩
  | dryRun hc hregistry _ hstarted hwould =>
    refine ⟨hstarted ▸ h.nodup, by rw [hstarted, hregistry]; exact h.known, ?_⟩
    have := hc.starts
    rw [hstarted, hwould]
    omega
  | @started task gpu slot hc hnew record _ _ hregistry _ hstarted hwould =>
    obtain ⟨start, hid, hstarted⟩ := hstarted
    refine ⟨?_, fun start' hstart' => ?_, ?_⟩
    · rw [hstarted, List.map_append, List.nodup_append]
      refine ⟨h.nodup, List.nodup_singleton _, fun tid htid tid' htid' heq => ?_⟩
      obtain ⟨start', hstart', rfl⟩ := List.mem_map.mp htid
      obtain rfl : tid' = start.task := List.mem_singleton.mp htid'
      have hknown := h.known start' hstart'
      rw [heq, hid, hnew] at hknown
      cases hknown
    · rw [hregistry]
      rw [hstarted] at hstart'
      rcases List.mem_append.mp hstart' with hold | hlast
      · exact isSome_setTask (h.known start' hold)
      · rw [List.mem_singleton.mp hlast, hid, get?_setTask, if_pos rfl]
        rfl
    · have := hc.starts
      rw [hstarted, hwould, List.length_append, List.length_singleton]
      omega
  | failed hc hregistry _ hstarted hwould =>
    refine ⟨hstarted ▸ h.nodup, fun start hstart => ?_, by rw [hstarted, hwould]; exact h.count⟩
    rw [hstarted] at hstart
    rcases hregistry with hsame | ⟨-, mode, worker, hset⟩
    · rw [hsame]
      exact h.known start hstart
    · rw [hset]
      exact isSome_setTask (h.known start hstart)

theorem samePlace_newRecord (task : Task) (gpu : Gpu) (slot : Nat) (mode mode' : String)
    (worker worker' : Option Pane) : SamePlace (newRecord inst task gpu slot mode worker)
      (newRecord inst task gpu slot mode' worker') := ⟨rfl, rfl, rfl, rfl⟩

/-- The working copy goes on to cover the registry. -/
theorem Covers.moved {goes : Prop} (h : Covers p.working p.registry)
    (hmoved : Moved inst args rows m p p' goes) (hgoes : goes) : Covers p'.working p'.registry := by
  cases hmoved with
  | ended hends => exact absurd hgoes hends
  | dryRun hc hregistry hworking =>
    obtain ⟨mode, hworking⟩ := hworking
    rw [hworking]
    exact h.add hc.new (Or.inl hregistry)
  | started hc hnew hsmoke hplace hregistry hworking =>
    rw [hworking]
    exact .refl _
  | failed hc hregistry hworking =>
    obtain ⟨mode, hworking⟩ := hworking hgoes
    rw [hworking]
    refine h.add hc.new (hregistry.imp_right ?_)
    rintro ⟨-, mode', worker, hset⟩
    exact ⟨_, samePlace_newRecord _ _ _ _ _ _ _, hset⟩

/-- The registry goes on to respect the limits. -/
theorem Respects.moved {goes : Prop} (h : Respects args.limits m.files p.registry.tasks)
    (hcovers : Covers p.working p.registry) (hmoved : Moved inst args rows m p p' goes) :
    Respects args.limits m.files p'.registry.tasks := by
  cases hmoved with
  | ended _ hregistry => exact hregistry ▸ h
  | dryRun _ hregistry => exact hregistry ▸ h
  | started hc _ _ hplace hregistry =>
    rw [hregistry]
    exact h.add _ hcovers hc.total hc.gpuRoom hc.free hplace
  | failed hc hregistry =>
    rcases hregistry with hsame | ⟨-, mode, worker, hset⟩
    · exact hsame ▸ h
    · rw [hset]
      exact h.add _ hcovers hc.total hc.gpuRoom hc.free rfl

/-- Whatever the limits are, a patrol gives no place to two active tasks. -/
theorem OnePerSlot.moved {goes : Prop} (h : OnePerSlot m.files p.registry.tasks)
    (hcovers : Covers p.working p.registry) (hmoved : Moved inst args rows m p p' goes) :
    OnePerSlot m.files p'.registry.tasks := by
  cases hmoved with
  | ended _ hregistry => exact hregistry ▸ h
  | dryRun _ hregistry => exact hregistry ▸ h
  | started hc _ _ hplace hregistry =>
    rw [hregistry]
    exact h.set _ (hcovers.free hc.free) hplace
  | failed hc hregistry =>
    rcases hregistry with hsame | ⟨-, mode, worker, hset⟩
    · exact hsame ▸ h
    · rw [hset]
      exact h.set _ (hcovers.free hc.free) rfl

/-! ## Termination -/

/-- The rows whose task the working copy does not have. -/
def unregistered (inst : Installation) (rows : List QueueRow) (working : Registry) : Nat :=
  rows.countP fun row =>
    match findTask inst row.task with
    | some task => (Dict.get? working.tasks task.id).isNone
    | none => false

/-- What an iteration that goes on lowers: the starts that are left, then the rows that are left. -/
def patrolMeasure (inst : Installation) (args : PatrolArgs) (rows : List QueueRow) (p : Patrol) :
    Nat :=
  (args.limits.maxStarts.toNat - (p.started.length + p.wouldStart.length)) * (rows.length + 1) +
    unregistered inst rows p.working

theorem countP_lt {α : Type} {q q' : α → Bool} {l : List α} (hle : ∀ x ∈ l, q' x = true → q x = true)
    {x : α} (hx : x ∈ l) (hq : q x = true) (hq' : q' x = false) : l.countP q' < l.countP q := by
  induction l with
  | nil => exact absurd hx List.not_mem_nil
  | cons y l ih =>
    have hmono : l.countP q' ≤ l.countP q :=
      List.countP_mono_left fun z hz => hle z (List.mem_cons_of_mem _ hz)
    rw [List.countP_cons, List.countP_cons]
    rcases List.mem_cons.mp hx with rfl | hx
    · simp only [hq, hq', Bool.false_eq_true, ↓reduceIte]
      omega
    · have hlt := ih (fun z hz => hle z (List.mem_cons_of_mem _ hz)) hx
      have hy := hle y List.mem_cons_self
      split
      · next h' => rw [if_pos (hy h')]; omega
      · omega

theorem unregistered_le (inst : Installation) (rows : List QueueRow) (working : Registry) :
    unregistered inst rows working ≤ rows.length :=
  List.countP_le_length

/-- A pending task that gets a record leaves one row less. -/
theorem unregistered_lt {working : Registry} {task : Task}
    (hrow : ∃ row ∈ rows, findTask inst row.task = some task)
    (hnew : Dict.get? working.tasks task.id = none) (record : Record) :
    unregistered inst rows (working.setTask task.id record) < unregistered inst rows working := by
  obtain ⟨row, hrow, hfind⟩ := hrow
  refine countP_lt (fun row' _ hq => ?_) hrow ?_ ?_
  · cases hfind' : findTask inst row'.task with
    | none =>
      rw [hfind'] at hq
      cases hq
    | some task' =>
      rw [hfind'] at hq
      dsimp only at hq ⊢
      rw [get?_setTask] at hq
      split at hq
      · cases hq
      · exact hq
  · rw [hfind]
    dsimp only
    rw [hnew]
    rfl
  · rw [hfind]
    dsimp only
    rw [get?_setTask, if_pos rfl]
    rfl

theorem measure_moved {goes : Prop} (hmoved : Moved inst args rows m p p' goes) (hgoes : goes) :
    patrolMeasure inst args rows p' < patrolMeasure inst args rows p := by
  have hstart : ∀ {n n' : Nat}, ((n : Nat) : Int) < max 0 args.limits.maxStarts → n' = n + 1 →
      (args.limits.maxStarts.toNat - n') * (rows.length + 1) + unregistered inst rows p'.working <
        (args.limits.maxStarts.toNat - n) * (rows.length + 1) + unregistered inst rows p.working := by
    intro n n' hlt hn
    have hleft : args.limits.maxStarts.toNat - n = (args.limits.maxStarts.toNat - n') + 1 := by omega
    have hrows := unregistered_le inst rows p'.working
    rw [hleft, Nat.add_mul]
    omega
  unfold patrolMeasure
  cases hmoved with
  | ended hends => exact absurd hgoes hends
  | dryRun hc _ _ hstarted hwould => exact hstart hc.starts (by rw [hstarted, hwould]; omega)
  | started hc _ _ _ _ _ hstarted hwould =>
    obtain ⟨start, -, hstarted⟩ := hstarted
    refine hstart hc.starts ?_
    rw [hstarted, hwould, List.length_append, List.length_singleton]
    omega
  | @failed task gpu slot hc _ hworking hstarted hwould =>
    obtain ⟨mode, hworking⟩ := hworking hgoes
    have hlt : unregistered inst rows (addFakeActiveRecord inst p.working task gpu slot mode) <
        unregistered inst rows p.working := unregistered_lt hc.row hc.new _
    rw [hstarted, hwould, hworking]
    exact Nat.add_lt_add_left hlt _

/-! ## Runs -/

/-- The patrol before iteration `i`, or after it if it is the last one. -/
def During (inst : Installation) (args : PatrolArgs) (rows : List QueueRow)
    (moments : Nat → Moment) (registry : Registry) (i : Nat) (p : Patrol) : Prop :=
  Reaches (patrolBody inst args rows moments) (.initial registry) i p ∨
    ∃ q o, Reaches (patrolBody inst args rows moments) (.initial registry) i q ∧
      patrolBody inst args rows moments i q = .done o ∧ o.patrol = p

/-- While a patrol runs, tasks may end, but no registered task that has ended becomes active. -/
def Quiet (inst : Installation) (args : PatrolArgs) (rows : List QueueRow)
    (moments : Nat → Moment) (registry : Registry) : Prop :=
  ∀ i p, Reaches (patrolBody inst args rows moments) (.initial registry) (i + 1) p →
    Settles (moments i).files (moments (i + 1)).files p.registry.tasks

section Runs

variable {moments : Nat → Moment} {registry : Registry} {i : Nat}

theorem startsInv_initial : StartsInv args (.initial registry) :=
  ⟨List.nodup_nil, fun _ h => absurd h List.not_mem_nil, Int.le_max_left _ _⟩

/-- What the iterations before have done. -/
theorem inv_of_patrol (h : Reaches (patrolBody inst args rows moments) (.initial registry) i p) :
    StartsInv args p ∧ Covers p.working p.registry := by
  refine inv_of_reaches (fun _ p => StartsInv args p ∧ Covers p.working p.registry)
    ⟨startsInv_initial, .refl _⟩ (fun i p p' hinv hbody => ?_) h
  have hmoved := moved_of_body inst args rows moments i p
  rw [hbody] at hmoved
  exact ⟨hinv.1.moved hmoved, hinv.2.moved hmoved trivial⟩

theorem respects_of_patrol (hquiet : Quiet inst args rows moments registry)
    (h₀ : Respects args.limits (moments 0).files registry.tasks)
    (h : Reaches (patrolBody inst args rows moments) (.initial registry) i p) :
    Respects args.limits (moments i).files p.registry.tasks := by
  induction h with
  | start => exact h₀
  | @next i p p' hreach hbody ih =>
    have hmoved := moved_of_body inst args rows moments i p
    rw [hbody] at hmoved
    have hkept := ih.moved (inv_of_patrol hreach).2 hmoved
    exact hkept.later (hquiet i p' (hreach.next hbody))

/-- What holds at all times of what the last iteration does too. -/
theorem during_cases (h : During inst args rows moments registry i p) :
    Reaches (patrolBody inst args rows moments) (.initial registry) i p ∨
      ∃ q, Reaches (patrolBody inst args rows moments) (.initial registry) i q ∧
        Moved inst args rows (moments i) q p False := by
  refine h.imp_right ?_
  rintro ⟨q, o, hq, hbody, rfl⟩
  have hmoved := moved_of_body inst args rows moments i q
  rw [hbody] at hmoved
  exact ⟨q, hq, hmoved⟩

theorem starts_during (h : During inst args rows moments registry i p) : StartsInv args p := by
  rcases during_cases h with h | ⟨q, hq, hmoved⟩
  · exact (inv_of_patrol h).1
  · exact (inv_of_patrol hq).1.moved hmoved

theorem respects_during (hquiet : Quiet inst args rows moments registry)
    (h₀ : Respects args.limits (moments 0).files registry.tasks)
    (h : During inst args rows moments registry i p) :
    Respects args.limits (moments i).files p.registry.tasks := by
  rcases during_cases h with h | ⟨q, hq, hmoved⟩
  · exact respects_of_patrol hquiet h₀ h
  · exact (respects_of_patrol hquiet h₀ hq).moved (inv_of_patrol hq).2 hmoved

/-- The fuel that is enough for every patrol. -/
def patrolFuel (args : PatrolArgs) (rows : List QueueRow) : Nat :=
  args.limits.maxStarts.toNat * (rows.length + 1) + rows.length + 1

theorem patrol_ends (inst : Installation) (args : PatrolArgs) (rows : List QueueRow)
    (moments : Nat → Moment) (registry : Registry) :
    ∃ o i, runPatrol inst args rows moments (patrolFuel args rows) registry = some o ∧
      During inst args rows moments registry i o.patrol := by
  have hstep : ∀ i p p', True → patrolBody inst args rows moments i p = .next p' →
      True ∧ patrolMeasure inst args rows p' < patrolMeasure inst args rows p := by
    intro i p p' _ hbody
    have hmoved := moved_of_body inst args rows moments i p
    rw [hbody] at hmoved
    exact ⟨trivial, measure_moved hmoved trivial⟩
  have hfuel : patrolMeasure inst args rows (.initial registry) < patrolFuel args rows := by
    have hrows := unregistered_le inst rows registry
    simp only [patrolMeasure, patrolFuel, Patrol.initial, List.length_nil, Nat.add_zero, Nat.sub_zero]
    omega
  obtain ⟨o, ho⟩ : ∃ o, runPatrol inst args rows moments (patrolFuel args rows) registry = some o :=
    loop_ends (fun _ _ => True) (patrolMeasure inst args rows) hstep trivial hfuel
  obtain ⟨i, q, hq, hbody⟩ := done_of_loop ho .start
  exact ⟨o, i, ho, Or.inr ⟨q, o, hq, hbody, rfl⟩⟩

/-- A patrol ends; at all times it has started at most `max_starts` tasks, none of them twice, and
if the registry respected the limits before, it does so now. -/
theorem patrol_respects_limits (inst : Installation) (args : PatrolArgs) (rows : List QueueRow)
    (moments : Nat → Moment) (registry : Registry) :
    (∃ o i, runPatrol inst args rows moments (patrolFuel args rows) registry = some o ∧
      During inst args rows moments registry i o.patrol) ∧
    ∀ i p, During inst args rows moments registry i p →
      (p.started.length : Int) ≤ max 0 args.limits.maxStarts ∧
      (p.started.map Start.task).Nodup ∧
      (Quiet inst args rows moments registry →
        Respects args.limits (moments 0).files registry.tasks →
          Respects args.limits (moments i).files p.registry.tasks) := by
  refine ⟨patrol_ends inst args rows moments registry, fun i p h => ?_⟩
  have hstarts := starts_during h
  refine ⟨?_, hstarts.nodup, fun hquiet h₀ => respects_during hquiet h₀ h⟩
  have := hstarts.count
  omega

end Runs

section Examples

/-- Every start succeeds, and no task ends. -/
def smoothMoment : Moment where
  files _ := .state (some "starting")
  legacyWorkspace _ := false
  workspace _ := false
  problem _ := true
  gpus := [⟨0, "GPU-0"⟩]
  attempt := .started ⟨"%1", "worker"⟩ ⟨"%2", "monitor"⟩ ⟨20, "ok"⟩

def oneQueued : List QueueRow := [⟨"B", 0, none, 1⟩]

def narrow : PatrolArgs := ⟨⟨2, 2, 8⟩, true, false, none⟩

theorem respects_oneActive : Respects narrow.limits smoothMoment.files oneActive.tasks := by
  have hone : ∀ q, Table.count oneActive.tasks q ≤ 1 := fun q => List.countP_le_length
  have honly : ∀ tid record, Dict.get? oneActive.tasks tid = some record → tid = "A" := by
    intro tid record hget
    rw [oneActive, Dict.get?_set] at hget
    split at hget
    · assumption
    · cases hget
  refine ⟨fun _ => ?_, fun gpu => ?_, fun tid tid' record record' _ h h' _ _ _ _ =>
    (honly tid record h).trans (honly tid' record' h').symm⟩
  · have hle := hone fun e => e.2.active smoothMoment.files
    change ((Table.count oneActive.tasks _ : Nat) : Int) ≤ 2
    omega
  · have hle := hone fun e => e.2.active smoothMoment.files && e.2.gpu.index = some gpu
    change ((Table.count oneActive.tasks _ : Nat) : Int) ≤ 2
    omega

theorem patrol_respects_limits_narrow :
    ∃ o i, runPatrol twoTasks narrow oneQueued (fun _ => smoothMoment)
        (patrolFuel narrow oneQueued) oneActive = some o ∧
      During twoTasks narrow oneQueued (fun _ => smoothMoment) oneActive i o.patrol ∧
      Respects narrow.limits smoothMoment.files o.patrol.registry.tasks := by
  obtain ⟨⟨o, i, hrun, hduring⟩, hall⟩ :=
    patrol_respects_limits twoTasks narrow oneQueued (fun _ => smoothMoment) oneActive
  have hquiet : Quiet twoTasks narrow oneQueued (fun _ => smoothMoment) oneActive :=
    fun _ _ _ _ _ _ hactive => hactive
  exact ⟨o, i, hrun, hduring, (hall i o.patrol hduring).2.2 hquiet respects_oneActive⟩

end Examples

end Akctl
