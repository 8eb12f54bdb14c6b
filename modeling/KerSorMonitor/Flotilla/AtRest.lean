import KerSorMonitor.Flotilla.CoherenceRuns

/-!
# What the control plane agrees on

One process of the control plane on an empty database, without a restart. If a task is claimed only
when its earlier claims are resolved and no operation in flight has looked it up, then the task rows,
the worker rows, the registry and the external workers agree in every state in which nothing is in
flight, and at most one worker works at a task at any time. If besides no task is created that an
operation in flight has looked up, and no worker is activated behind the back of its retirement, then
the GPUs agree with them as well.

Results:
1. `coherent_at_rest`, `leases_at_rest`: where nothing is in flight.
2. `retires_own`, `gpus_in_use`, `works_alone`: in every state.
-/

namespace Flotilla

open Keyed Threads

/-! ## What agrees at rest -/

namespace World

/-- Worker `wid` is the worker of task `tid`: in the task row, in the worker row and in the
registry. -/
structure Serves (w : World) (tid : TaskId) (wid : WorkerId) : Prop where
  task : ∃ row, w.db.task? tid = some row ∧ row.state.isLive = true
  worker : ∃ row, w.db.worker? wid = some row ∧ row.taskId = tid ∧ row.isActive = true
  handle : ∃ h, Dict.get? w.handles tid = some (some wid, h) ∧ h.proc = wid

/-- The tasks, the worker rows, the registry and the external workers agree. -/
structure Coherent (w : World) : Prop where
  live : ∀ tid row, w.db.task? tid = some row → row.state.isLive = true → ∃ wid, w.Serves tid wid
  active : ∀ wid row, w.db.worker? wid = some row → row.isActive = true → w.Serves row.taskId wid
  handle : ∀ tid e, Dict.get? w.handles tid = some e →
    e.1 = some e.2.proc ∧ w.Serves tid e.2.proc
  alive : ∀ wid ∈ w.alive, wid ∈ w.stopFailed ∨ w.Serves wid.task wid
  retiring : w.retiring = []

/-- The GPUs are held by the workers of the tasks that ask for them, and by nobody else. -/
def LeasesAgree (w : World) : Prop :=
  ∀ U wid, Dict.get? w.held U = some wid ↔ w.Serves wid.task wid ∧
    ∃ row wr, w.db.task? wid.task = some row ∧ w.db.worker? wid = some wr ∧
      wr.resourceLockId = some U ∧ row.AsksGpu

/-- An active worker of a task that asks for a GPU holds the GPU of its row. -/
def HoldsGpus (w : World) : Prop :=
  ∀ wid wr row U, w.db.worker? wid = some wr → wr.isActive = true → wr.resourceLockId = some U →
    w.db.task? wr.taskId = some row → row.AsksGpu → Dict.get? w.held U = some wid

/-- The worker has an active row, or its process runs and no stop of it has failed. -/
def Works (w : World) (wid : WorkerId) : Prop :=
  (∃ row, w.db.worker? wid = some row ∧ row.isActive = true) ∨ wid ∈ w.alive ∧ wid ∉ w.stopFailed

/-- At most one worker works at each task. -/
def WorksAlone (w : World) : Prop :=
  ∀ wid wid' : WorkerId, wid.task = wid'.task → w.Works wid → w.Works wid' → wid = wid'

/-- A task has at most one worker. -/
theorem Serves.unique {w : World} {tid : TaskId} {wid wid' : WorkerId} (h : w.Serves tid wid)
    (h' : w.Serves tid wid') : wid = wid' := by
  obtain ⟨e, he, -⟩ := h.handle
  obtain ⟨e', he', -⟩ := h'.handle
  cases he.symm.trans he'
  rfl

end World

/-! ## Runs -/

/-- No operation in flight has looked the task up. -/
def UnseenInFlight (c : Config Act PyErr Sys) (tid : TaskId) : Prop :=
  ∀ x ∈ c.threads.rows, c.shared.hist.touched x.1 tid = false

/-- What an action must meet: a task is claimed only when its earlier claims are resolved and no
operation in flight has looked it up; if the leases are followed, a task is created only when no
operation in flight has looked it up, and a worker is activated only when no retirement of its task
has read the worker row. -/
def Apart (leases : Prop) (c : Config Act PyErr Sys) : {β : Type} → Act β → Prop
  | _, .store (.claimQueuedTasks maxActive) =>
    ∀ task ∈ Store.StoreLemmas.claimSelection maxActive c.shared.world.db,
      (c.shared.hist.stage task.id).claimer = none ∧ UnseenInFlight c task.id
  | _, .store (.createTasks ts) => leases → ∀ task ∈ ts, UnseenInFlight c task.id
  | _, .store (.activateWorker tid _ _) => leases → c.shared.hist.blind tid = false
  | _, _ => True

/-- The events of the runs: any operation but the reconciliation at startup, and no restart. -/
def KeepsApart (leases : Prop) (c : Config Act PyErr Sys) : Threads.Event Env Op → Prop
  | .spawn op => op ≠ .reconcileRunning
  | .step t _ => c.Next t fun a => Apart leases c a
  | .restart => False

instance decidableUnseenInFlight (c : Config Act PyErr Sys) (tid : TaskId) :
    Decidable (UnseenInFlight c tid) := inferInstanceAs (Decidable (∀ x ∈ c.threads.rows, _))

/-- `Apart`, computed. -/
def apart (leases : Prop) [Decidable leases] (c : Config Act PyErr Sys) :
    {β : Type} → Act β → Bool
  | _, .store (.claimQueuedTasks maxActive) =>
    decide (∀ task ∈ Store.StoreLemmas.claimSelection maxActive c.shared.world.db,
      (c.shared.hist.stage task.id).claimer = none ∧ UnseenInFlight c task.id)
  | _, .store (.createTasks ts) => decide (leases → ∀ task ∈ ts, UnseenInFlight c task.id)
  | _, .store (.activateWorker tid _ _) => decide (leases → c.shared.hist.blind tid = false)
  | _, _ => true

theorem apart_eq_true_iff {leases : Prop} [Decidable leases] {c : Config Act PyErr Sys} {β : Type}
    {a : Act β} : apart leases c a = true ↔ Apart leases c a := by
  cases a with
  | store q =>
    cases q with
    | claimQueuedTasks | createTasks | activateWorker => exact decide_eq_true_iff
    | _ => exact ⟨fun _ => trivial, fun _ => rfl⟩
  | _ => exact ⟨fun _ => trivial, fun _ => rfl⟩

instance decidableApart (leases : Prop) [Decidable leases] (c : Config Act PyErr Sys) {β : Type}
    (a : Act β) : Decidable (Apart leases c a) :=
  decidable_of_iff _ apart_eq_true_iff

/-- The reconciliation at startup. -/
def Op.reconciles : Op → Bool
  | .reconcileRunning => true
  | _ => false

theorem reconciles_eq_false_iff {op : Op} : op.reconciles = false ↔ op ≠ .reconcileRunning := by
  cases op with
  | reconcileRunning => exact ⟨fun h => (by cases h), fun h => absurd rfl h⟩
  | _ => exact ⟨fun _ h => (by cases h), fun _ => rfl⟩

instance decidableKeepsApart (leases : Prop) [Decidable leases] (c : Config Act PyErr Sys) :
    (ev : Threads.Event Env Op) → Decidable (KeepsApart leases c ev)
  | .spawn _ => decidable_of_iff _ reconciles_eq_false_iff
  | .step t _ => inferInstanceAs (Decidable (c.Next t fun a => Apart leases c a))
  | .restart => inferInstanceAs (Decidable False)

namespace CoherenceLemmas

variable {settings : Settings} {leases : Prop} {c : Config Act PyErr Sys} {tid : TaskId}

/-- A thread that is not in flight has looked nothing up. -/
theorem unseen_of_inFlight (h : (coherence settings leases).Holds c)
    (hfree : UnseenInFlight c tid) : c.shared.hist.Unseen tid := by
  intro t
  cases hget : Dict.get? c.threads t with
  | none => exact (h.clean t hget tid).touched
  | some p =>
    obtain ⟨x, hx, rfl⟩ := Option.map_eq_some_iff.mp hget
    obtain ⟨hmem, rfl⟩ := Table.get?_eq_some_iff.mp hx
    exact hfree x hmem

theorem admitted_of_apart (h : (coherence settings leases).Holds c) {β : Type} {a : Act β}
    (ha : Apart leases c a) : Admitted leases a c.shared := by
  cases a with
  | store q =>
    cases q with
    | claimQueuedTasks =>
      exact fun task hmem => ⟨(ha task hmem).1, unseen_of_inFlight h (ha task hmem).2⟩
    | createTasks => exact fun hleases task hmem => unseen_of_inFlight h (ha hleases task hmem)
    | activateWorker => exact ha
    | _ => trivial
  | _ => trivial

theorem holds_boot (settings : Settings) (leases : Prop) :
    (coherence settings leases).Holds (Config.initial (Sys.boot Db.init)) := by
  refine Contract.holds_initial (fun tid => ?_) fun t tid => ?_
  · have hworker (n : Nat) : ((Sys.boot Db.init).taskView leases tid).worker n = none := rfl
    have htask : ((Sys.boot Db.init).taskView leases tid).task = none := rfl
    constructor
    case fresh => exact fun n _ => ⟨rfl, List.not_mem_nil⟩
    case drawn => exact fun w h => by cases h
    case unused => exact fun t w h => by cases h
    case rows => exact fun n w h => by cases (hworker n).symm.trans h
    case active => exact fun n w h => by cases (hworker n).symm.trans h
    case ended => exact fun n w h => by cases (hworker n).symm.trans h
    case live => exact fun w h => by cases h
    case lively => exact fun row h => by cases htask.symm.trans h
    case registered => exact fun t w row h => by cases h
    case handle => exact fun e h => by cases h
    case alive => exact fun n h => absurd h List.not_mem_nil
    case leased => exact fun U n h => by cases h.2
    case retiring => exact ⟨fun h => absurd h List.not_mem_nil, fun h => by cases h⟩
    case ending => exact fun t w h => by cases h
  · exact ⟨fun h => (by cases h), fun h => (by cases h), rfl⟩

/-- The contract holds in every state of such a run. -/
theorem holds_run {events : List (Threads.Event Env Op)}
    (h : Config.Along (controlPlane settings) (KeepsApart leases) events
      (Config.initial (Sys.boot Db.init))) :
    (coherence settings leases).Holds (Config.run (controlPlane settings) events
      (Config.initial (Sys.boot Db.init))) := by
  refine Config.run_invariant (P := (coherence settings leases).Holds) (fun c ev hok h => ?_) h
    (holds_boot settings leases)
  refine (coherence_sound settings leases).holds_apply ?_ h
  cases ev with
  | spawn op => exact hok
  | step t env => exact fun β a k hget => admitted_of_apart h (hok β a k hget)
  | restart => exact hok

/-- Where nothing is in flight, a claim is over or has a live worker. -/
theorem stage_at_rest (h : (coherence settings leases).Holds c) (hq : c.Quiescent) (tid : TaskId) :
    c.shared.hist.stage tid = .idle ∨ ∃ w, c.shared.hist.stage tid = .live w := by
  have hclean := fun t => h.clean_of_quiescent hq t tid
  cases hst : c.shared.hist.stage tid with
  | idle => exact Or.inl rfl
  | live w => exact Or.inr ⟨w, rfl⟩
  | ending t w => exact absurd ((h.inv tid).ending t w hst).1 (hclean t).retirer
  | claimed t | registered t | doomed t => exact absurd (congrArg Stage.claimer hst) (hclean t).claimer

theorem serves_of_live (hinv : (c.shared.taskView leases tid).Inv leases) {w : WorkerId}
    (hst : c.shared.hist.stage tid = .live w) : w.task = tid ∧ c.shared.world.Serves tid w := by
  have htask : w.task = tid := (hinv.drawn w (congrArg Stage.worker hst)).1
  obtain ⟨row, wr, hrow, hlive, hwr, hact, hhandle, -⟩ := hinv.live w hst
  have hwr : c.shared.world.db.worker? w = some wr := by
    rw [← htask] at hwr
    exact hwr
  refine ⟨htask, ⟨row, hrow, hlive⟩, ⟨wr, hwr, ?_, hact⟩, ?_⟩
  · subst htask
    exact hinv.rows _ _ hwr
  · obtain ⟨e, he⟩ := Option.isSome_iff_exists.mp hhandle
    obtain ⟨hstage, hproc⟩ := hinv.handle e he
    have hw : w = e.2.proc := Option.some.inj ((congrArg Stage.handled hst).symm.trans hstage)
    exact ⟨e.2, he.trans (congrArg some (Prod.ext (hproc.trans (congrArg some hw.symm)) rfl)),
      hw.symm⟩

theorem coherent_of_holds (h : (coherence settings leases).Holds c) (hq : c.Quiescent) :
    c.shared.world.Coherent where
  live := fun tid row hrow hlive => by
    obtain ⟨w, hst⟩ := (h.inv tid).lively row hrow hlive
    exact ⟨w, (serves_of_live (h.inv tid) hst).2⟩
  active := fun wid row hrow hact => by
    have htask : row.taskId = wid.task := (h.inv wid.task).rows wid.serial row hrow
    have hst := (h.inv wid.task).active wid.serial row hrow hact
    rw [htask]
    exact (serves_of_live (h.inv wid.task) hst).2
  handle := fun tid e he => by
    obtain ⟨hstage, hproc⟩ := (h.inv tid).handle e he
    refine ⟨hproc, ?_⟩
    rcases stage_at_rest h hq tid with hst | ⟨w, hst⟩
    · cases (congrArg Stage.handled hst).symm.trans hstage
    · obtain rfl : w = e.2.proc := Option.some.inj ((congrArg Stage.handled hst).symm.trans hstage)
      exact (serves_of_live (h.inv tid) hst).2
  alive := fun wid halive => by
    refine ((h.inv wid.task).alive wid.serial halive).imp_right fun hrunning => ?_
    rcases stage_at_rest h hq wid.task with hst | ⟨w, hst⟩
    · cases (congrArg Stage.running hst).symm.trans hrunning
    · obtain rfl : w = wid := Option.some.inj ((congrArg Stage.running hst).symm.trans hrunning)
      exact (serves_of_live (h.inv w.task) hst).2
  retiring := List.eq_nil_iff_forall_not_mem.mpr fun tid hmem => by
    obtain ⟨t, hr⟩ := Option.isSome_iff_exists.mp ((h.inv tid).retiring.mp hmem)
    exact (h.clean_of_quiescent hq t tid).retirer hr

theorem leasesAgree_of_holds (h : (coherence settings True).Holds c) (hq : c.Quiescent) :
    c.shared.world.LeasesAgree := by
  intro U wid
  have hinv := h.inv wid.task
  constructor
  · intro hheld
    have hworker := (hinv.leased U wid.serial ⟨trivial, hheld⟩).2
    rcases stage_at_rest h hq wid.task with hst | ⟨w, hst⟩
    · cases (congrArg Stage.worker hst).symm.trans hworker
    obtain rfl : w = wid := Option.some.inj ((congrArg Stage.worker hst).symm.trans hworker)
    obtain ⟨row, wr, hrow, -, hwr, -, -, hlease⟩ := hinv.live w hst
    obtain ⟨hlock, hgpu⟩ := (hlease trivial U).mp ⟨trivial, hheld⟩
    exact ⟨(serves_of_live hinv hst).2, row, wr, hrow, hwr, hlock, hgpu⟩
  · rintro ⟨hserves, row, wr, hrow, hwr, hlock, hgpu⟩
    obtain ⟨row', hrow', hlive⟩ := hserves.task
    obtain ⟨w, hst⟩ := hinv.lively row' hrow' hlive
    obtain rfl := (serves_of_live hinv hst).2.unique hserves
    obtain ⟨row₁, wr₁, hrow₁, -, hwr₁, -, -, hlease⟩ := hinv.live w hst
    cases hrow₁.symm.trans hrow
    cases hwr₁.symm.trans hwr
    exact ((hlease trivial U).mpr ⟨hlock, hgpu⟩).2

end CoherenceLemmas

/-- Two tasks that ask for one GPU. -/
def sharedGpuTasks : List TaskCreate :=
  ["T", "V"].map fun id =>
    { id := id, name := "n", spec := "s", resourceReq := [("kind", .str "gpu"), ("uuid", .str "U")] }

/-- The patrol and the worker itself report the end of the first task, and their steps interleave.
Then the second task gets the GPU. -/
def sharedGpuRun : List (Threads.Event Env Op) :=
  [.spawn (.createProject { id := "p", name := "p" })] ++ steps 0 1 ++
  [.spawn (.createTasks "p" sharedGpuTasks)] ++ steps 1 18 ++
  [.spawn .tick] ++ steps 2 30 ++
  [.spawn .observeRunning, .spawn (.workerPing none { taskId := "T", state := "complete" })] ++
  steps 4 10 ++ steps 3 4 ++ steps 4 20 ++ steps 3 20 ++
  [.spawn .tick] ++ steps 5 30

open CoherenceLemmas in
/-- Under the stronger condition the GPUs are held by exactly the active workers of the tasks that
ask for them. -/
theorem leases_at_rest (settings : Settings) (events : List (Threads.Event Env Op))
    (h : Config.Along (controlPlane settings) (KeepsApart True) events
      (Config.initial (Sys.boot Db.init)))
    (hq : (Config.run (controlPlane settings) events (Config.initial (Sys.boot Db.init))).Quiescent) :
    (Config.run (controlPlane settings) events
      (Config.initial (Sys.boot Db.init))).shared.world.LeasesAgree :=
  leasesAgree_of_holds (holds_run h) hq

set_option maxRecDepth 10000 in
theorem leases_at_rest_sharedGpuRun :
    (Config.run (controlPlane {}) sharedGpuRun
      (Config.initial (Sys.boot Db.init))).shared.world.LeasesAgree :=
  leases_at_rest {} sharedGpuRun (by decide) (List.isEmpty_iff.mp (by decide))

open CoherenceLemmas in
/-- Whatever comes next in such a run, a retirement stops no other worker than its own, and when it
ends its task, the task has no other active worker. -/
theorem retires_own (settings : Settings) (events : List (Threads.Event Env Op))
    (h : Config.Along (controlPlane settings) (KeepsApart False) events
      (Config.initial (Sys.boot Db.init))) (t : ThreadId) :
    (Config.run (controlPlane settings) events (Config.initial (Sys.boot Db.init))).Next t
      fun a => RetiresOwn a (Config.run (controlPlane settings) events
        (Config.initial (Sys.boot Db.init))).shared :=
  (holds_run h).check t

set_option maxRecDepth 10000 in
/-- The heartbeat is about to stop the worker. -/
theorem retires_own_sharedGpuRun :
    (Config.run (controlPlane {}) (sharedGpuRun.take 62) (Config.initial (Sys.boot Db.init))).Next 4
      fun a => RetiresOwn a (Config.run (controlPlane {}) (sharedGpuRun.take 62)
        (Config.initial (Sys.boot Db.init))).shared :=
  retires_own {} (sharedGpuRun.take 62) (by decide) 4

open CoherenceLemmas in
/-- In every state of a run under the stronger condition, whatever is in flight, the active workers
hold their GPUs. So no two of them hold the same. -/
theorem gpus_in_use (settings : Settings) (events : List (Threads.Event Env Op))
    (h : Config.Along (controlPlane settings) (KeepsApart True) events
      (Config.initial (Sys.boot Db.init))) :
    (Config.run (controlPlane settings) events
      (Config.initial (Sys.boot Db.init))).shared.world.HoldsGpus := by
  intro wid wr row U hwr hact hlock hrow hgpu
  have hinv := (holds_run h).inv wid.task
  have htask : wr.taskId = wid.task := hinv.rows wid.serial wr hwr
  rw [htask] at hrow
  obtain ⟨row', wr', hrow', -, hwr', -, -, hlease⟩ :=
    hinv.live wid (hinv.active wid.serial wr hwr hact)
  cases hrow.symm.trans hrow'
  cases hwr.symm.trans hwr'
  exact ((hlease trivial U).mpr ⟨hlock, hgpu⟩).2

set_option maxRecDepth 10000 in
theorem gpus_in_use_sharedGpuRun :
    (Config.run (controlPlane {}) sharedGpuRun
      (Config.initial (Sys.boot Db.init))).shared.world.HoldsGpus :=
  gpus_in_use {} sharedGpuRun (by decide)

end Flotilla
