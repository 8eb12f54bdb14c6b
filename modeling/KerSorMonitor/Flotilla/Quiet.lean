import KerSorMonitor.Flotilla.Effects
import KerSorMonitor.Flotilla.Routes

/-!
# Quiet steps

Most steps of the control plane read, observe, publish, or append an event. They leave alone
what the invariants are about: the task rows, which workers are active, the registry, the
leases, and the progress of the claims.

Results:
1. `sameCore_of_quiet`: what a quiet step leaves alone.
2. `observeWorker_silent`, `observeAndRecord_quiet`, ...: the programs of quiet steps.
-/

namespace Flotilla

open Keyed Threads
open Prog (call)

/-- The transactions that touch no task row and keep every worker as active as it is. -/
def Transaction.Quiet : {α : Type} → Transaction α → Prop
  | _, .createTasks _ => False
  | _, .setTaskState _ _ _ => False
  | _, .claimQueuedTasks _ => False
  | _, .releaseTaskClaim _ _ => False
  | _, .markStaleDispatchingLost => False
  | _, .activateWorker _ _ _ => False
  | _, .finishWorker _ _ _ _ => False
  | _, .deleteTask _ => False
  | _, .createWorker _ => False
  | _, .endWorker _ => False
  | _, _ => True

/-- The actions that change neither the registry, the leases, the external workers nor the
progress of a claim, and only make quiet transactions. -/
def Act.Quiet : {β : Type} → Act β → Prop
  | _, .store q => q.Quiet
  | _, .newWorkerId _ => False
  | _, .register _ _ _ => False
  | _, .unregister _ _ => False
  | _, .beginRetire _ => False
  | _, .endRetire _ => False
  | _, .acquire _ _ _ => False
  | _, .releaseId _ _ _ => False
  | _, .asCompleted _ => False
  | _, .stop _ _ => False
  | _, _ => True

/-- The quiet actions that record no event and publish nothing. -/
def Act.Silent : {β : Type} → Act β → Prop
  | _, .store (.appendEvent _) => False
  | _, .publish _ => False
  | _, a => a.Quiet

theorem Act.Silent.quiet {β : Type} (a : Act β) (h : a.Silent) : a.Quiet := by
  cases a with
  | store q =>
    cases q with
    | appendEvent e => exact h.elim
    | _ => exact h
  | publish p => exact h.elim
  | _ => exact h

/-! ## What a quiet step leaves alone -/

/-- The two rows agree in everything but the session id. -/
def Worker.SameBut (w w' : Worker) : Prop := w' = { w with sessionUuid := w'.sessionUuid }

/-- What a quiet step of thread `t` leaves alone. Its looks at tasks are added to the history. -/
structure SameCore (t : ThreadId) (s s' : Sys) : Prop where
  task : s'.world.db.task = s.world.db.task
  worker : ∀ wid, s'.world.db.worker? wid = s.world.db.worker? wid ∨
    ∃ w w', s.world.db.worker? wid = some w ∧ s'.world.db.worker? wid = some w' ∧ w.SameBut w'
  handles : s'.world.handles = s.world.handles
  retiring : s'.world.retiring = s.world.retiring
  held : s'.world.held = s.world.held
  serial : s'.world.serial = s.world.serial
  alive : s'.world.alive = s.world.alive
  stopFailed : s'.world.stopFailed = s.world.stopFailed
  stage : s'.hist.stage = s.hist.stage
  lastClaim : s'.hist.lastClaim = s.hist.lastClaim
  retirer : s'.hist.retirer = s.hist.retirer
  used : s'.hist.used = s.hist.used
  drawer : s'.hist.drawer = s.hist.drawer
  activated : s'.hist.activated = s.hist.activated
  holders : s'.hist.holders = s.hist.holders
  touched : ∀ t' tid, t' ≠ t → s'.hist.touched t' tid = s.hist.touched t' tid
  touched_self : ∀ tid, s.hist.touched t tid = true → s'.hist.touched t tid = true
  blind : ∀ tid, s'.hist.blind tid = s.hist.blind tid ∨
    s.hist.retirer tid = some t ∧ s'.hist.blind tid = true

namespace QuietLemmas

open TransactionLemmas Store

theorem SameCore.refl (t : ThreadId) (s : Sys) : SameCore t s s where
  task := rfl
  worker := fun _ => Or.inl rfl
  handles := rfl
  retiring := rfl
  held := rfl
  serial := rfl
  alive := rfl
  stopFailed := rfl
  stage := rfl
  lastClaim := rfl
  retirer := rfl
  used := rfl
  drawer := rfl
  activated := rfl
  holders := rfl
  touched := fun _ _ _ => rfl
  touched_self := fun _ h => h
  blind := fun _ => Or.inl rfl

/-- A quiet transaction changes no task row, and of a worker row only the session id. -/
theorem db_of_quiet {settings : Settings} {clock : Clock} {α : Type} {q : Transaction α}
    (hq : q.Quiet) {db db' : Db} {r : Except PyErr α} (h : q.exec settings clock db = (r, db')) :
    db'.task = db.task ∧ ∀ wid, db'.worker? wid = db.worker? wid ∨
      ∃ w w', db.worker? wid = some w ∧ db'.worker? wid = some w' ∧ w.SameBut w' := by
  cases q with
  | setWorkerSessionUuid wid uuid =>
    cases h
    refine ⟨rfl, fun wid' => ?_⟩
    simp only [Db.worker?, Db.updateWorkers, Table.get?_updateWhere]
    cases db.worker.get? wid' with
    | none => exact Or.inl rfl
    | some w =>
      refine Or.inr ⟨w, _, rfl, rfl, ?_⟩
      dsimp only
      split <;> rfl
  | createTasks | setTaskState | claimQueuedTasks | releaseTaskClaim | markStaleDispatchingLost
  | activateWorker | finishWorker | deleteTask | createWorker | endWorker => exact hq.elim
  | _ =>
    refine ⟨task_eq_of_keepsTasks (by exact trivial) h, fun wid => Or.inl ?_⟩
    unfold Db.worker?
    rw [worker_eq_of_keepsWorkers (by exact trivial) h]

/-- A quiet transaction adds nothing to the history but a look at a task. -/
theorem recordStore_of_quiet {α : Type} {q : Transaction α} (hq : q.Quiet) (t : ThreadId)
    (r : Except PyErr α) (h : History) :
    h.recordStore t q r = h ∨ (∃ tid, h.recordStore t q r = h.touch t tid) ∨
      ∃ tid, h.retirer tid = some t ∧
        h.recordStore t q r = { h with blind := setAt h.blind tid true } := by
  cases q with
  | getTask tid => exact Or.inr (Or.inl ⟨tid, rfl⟩)
  | getWorker wid =>
    by_cases hr : h.retirer wid.task = some t
    · refine Or.inr (Or.inr ⟨wid.task, hr, ?_⟩)
      simp only [History.recordStore, hr, ↓reduceIte]
    · refine Or.inl ?_
      simp only [History.recordStore, hr, ↓reduceIte]
  | createTasks | setTaskState | claimQueuedTasks | releaseTaskClaim | markStaleDispatchingLost
  | activateWorker | finishWorker | deleteTask | createWorker | endWorker => exact hq.elim
  | _ => exact Or.inl rfl

theorem sameCore_touch (t : ThreadId) (tid : TaskId) (s : Sys) :
    SameCore t s ⟨s.world, s.hist.touch t tid⟩ :=
  { SameCore.refl t s with
    touched := fun t' tid' hne => by
      simp only [History.touch, setAt_of_ne _ _ hne]
    touched_self := fun tid' h => by
      simp only [History.touch, setAt_same, setAt_apply]
      split
      · rfl
      · exact h }

theorem sameCore_blind {t : ThreadId} {tid : TaskId} {s : Sys}
    (hr : s.hist.retirer tid = some t) :
    SameCore t s ⟨s.world, { s.hist with blind := setAt s.hist.blind tid true }⟩ :=
  { SameCore.refl t s with
    blind := fun tid' => by
      by_cases htid : tid' = tid
      · subst htid
        exact Or.inr ⟨hr, setAt_same _ _ _⟩
      · exact Or.inl (setAt_of_ne _ _ htid) }

theorem sameCore_db {t : ThreadId} {s s' : Sys} (h : SameCore t s s') {db' : Db}
    (htask : db'.task = s.world.db.task)
    (hworker : ∀ wid, db'.worker? wid = s.world.db.worker? wid ∨
      ∃ w w', s.world.db.worker? wid = some w ∧ db'.worker? wid = some w' ∧ w.SameBut w') :
    SameCore t s ⟨{ s'.world with db := db' }, s'.hist⟩ :=
  { h with
    task := htask
    worker := hworker }

/-- What a quiet step leaves alone. -/
theorem sameCore_of_quiet {settings : Settings} {t : ThreadId} {β : Type} {a : Act β}
    (ha : a.Quiet) {env : Env} {s s' : Sys} {r : Except PyErr β}
    (h : Sys.exec settings t a env s = (r, s')) : SameCore t s s' := by
  cases a with
  | store q =>
    have hrec : ∀ r, SameCore t s ⟨s.world, s.hist.recordStore t q r⟩ := by
      intro r
      rcases recordStore_of_quiet ha t r s.hist with heq | ⟨tid, heq⟩ | ⟨tid, hr, heq⟩
      · rw [heq]
        exact SameCore.refl t s
      · rw [heq]
        exact sameCore_touch t tid s
      · rw [heq]
        exact sameCore_blind hr
    unfold Sys.exec World.exec at h
    cases hraise : env.raises with
    | some e =>
      simp only [hraise, History.record] at h
      cases h
      exact hrec _
    | none =>
      simp only [hraise, History.record] at h
      cases h
      obtain ⟨htask, hworker⟩ := db_of_quiet ha (rfl : q.exec settings env.clock s.world.db = _)
      exact sameCore_db (hrec _) htask hworker
  | handlesSnapshot =>
    cases h
    refine { SameCore.refl t s with touched := fun t' tid hne => ?_, touched_self := fun tid h => ?_ }
    · simp only [History.record, setAt_of_ne _ _ hne]
    · simp only [History.record, setAt_same, h, Bool.true_or]
  | runningHandle tid =>
    cases h
    exact sameCore_touch t tid s
  | newWorkerId | register | unregister | beginRetire | endRetire | acquire | releaseId
  | asCompleted | stop => exact ha.elim
  | now | readStatus | isDir | dumpsLength | windowName =>
    cases h
    exact SameCore.refl t s
  | observe | paste | pauseWorker | resumeWorker | mineSessionUuid | sessionActivity
  | candidateCount | makeDirs | evaluate | findPane | publish =>
    obtain ⟨world, hist⟩ := s
    simp only [Sys.exec, World.exec, History.record] at h
    cases h
    rw [Effects.outside_world]
    exact SameCore.refl t _

end QuietLemmas

/-! ## Quiet programs -/

namespace QuietLemmas

theorem quiet_bind {α β : Type} {p : Program α} {f : α → Program β} (hp : p.All Act.Quiet)
    (hf : ∀ a, (f a).All Act.Quiet) : (p >>= f).All Act.Quiet := Prog.All.bind hp hf

theorem quiet_call {α : Type} {a : Act α} (h : a.Quiet) : (call a : Program α).All Act.Quiet :=
  Prog.all_call.mpr h

theorem quiet_store {α : Type} {q : Transaction α} (h : q.Quiet) : (store q).All Act.Quiet :=
  Prog.all_call.mpr h

theorem silent_bind {α β : Type} {p : Program α} {f : α → Program β} (hp : p.All Act.Silent)
    (hf : ∀ a, (f a).All Act.Silent) : (p >>= f).All Act.Silent := Prog.All.bind hp hf

theorem silent_call {α : Type} {a : Act α} (h : a.Silent) :
    (call a : Program α).All Act.Silent := Prog.all_call.mpr h

theorem silent_store {α : Type} {q : Transaction α} (h : (Act.store q).Silent) :
    (store q).All Act.Silent := Prog.all_call.mpr h

theorem quiet_of_silent {α : Type} {p : Program α} (h : p.All Act.Silent) : p.All Act.Quiet :=
  h.mono Act.Silent.quiet

theorem silent_httpException {α : Type} (status : Nat) (detail : String) :
    (httpException status detail : Program α).All Act.Silent := trivial

theorem silent_badRequestOf {α : Type} (r : Except PyErr α) : (badRequestOf r).All Act.Silent := by
  unfold badRequestOf
  split
  · trivial
  · split <;> trivial

theorem silent_checkId (value : Option String) (label : String) :
    (checkId value label).All Act.Silent := by
  unfold checkId
  split <;> trivial

theorem newEvent_silent (tid : TaskId) (type : String) (payload : JsonObj) :
    (newEvent tid type payload).All Act.Silent :=
  silent_bind (silent_call trivial) fun _ => trivial

theorem recordEvent_quiet (tid : TaskId) (type : String) (payload : JsonObj) :
    (recordEvent tid type payload).All Act.Quiet :=
  quiet_bind (quiet_of_silent (newEvent_silent tid type payload)) fun _ => quiet_store trivial

theorem schedulerEvent_quiet (tid : TaskId) (type : String) (payload : JsonObj) :
    (schedulerEvent tid type payload).All Act.Quiet :=
  (recordEvent_quiet tid type payload).ignoring

theorem publishTask_quiet (tid : TaskId) : (publishTask tid).All Act.Quiet :=
  Prog.All.ignoring (quiet_call trivial)

theorem publishTasks_quiet (tids : List TaskId) : (publishTasks tids).All Act.Quiet := by
  induction tids with
  | nil => trivial
  | cons tid tids ih => exact quiet_bind (publishTask_quiet tid) fun _ => ih

theorem publishCreated_quiet (tasks : List Task) : (publishCreated tasks).All Act.Quiet := by
  induction tasks with
  | nil => trivial
  | cons task tasks ih => exact quiet_bind (quiet_call trivial) fun _ => ih

theorem getWorker?_silent (wid : Option WorkerId) : (getWorker? wid).All Act.Silent := by
  cases wid with
  | none => trivial
  | some w => exact silent_store trivial

/-! ### The evaluator -/

theorem evaluateLocally_silent (task : Task) (name : String) (handle : Option WorkerHandle) :
    (evaluateLocally task name handle).All Act.Silent := by
  unfold evaluateLocally
  split
  · trivial
  · refine silent_bind (silent_call trivial) fun exists' => ?_
    split
    · trivial
    · exact silent_bind (Prog.all_ofExcept _) fun _ => silent_call trivial

theorem evaluationEvent_silent (task : Task) (handle : Option WorkerHandle) :
    (evaluationEvent task handle).All Act.Silent := by
  unfold evaluationEvent
  split
  · trivial
  · next name _ =>
    refine silent_bind (evaluateLocally_silent task name handle).attempt fun result => ?_
    exact silent_bind (newEvent_silent _ _ _) fun _ => trivial

/-! ### Observation -/

theorem mineRemote_silent (wid : Option WorkerId) (h : WorkerHandle) :
    (mineRemote wid h).All Act.Silent := by
  refine silent_bind (getWorker?_silent wid) fun w => ?_
  cases w with
  | none => trivial
  | some w =>
    dsimp only
    split
    · trivial
    · refine silent_bind (silent_call trivial) fun uuid => ?_
      split
      · trivial
      · exact silent_bind (silent_store trivial) fun _ => trivial

theorem observeRemote_silent (wid : Option WorkerId) (h : WorkerHandle) (rt : RuntimeAdapter) :
    (observeRemote wid h rt).All Act.Silent := by
  refine silent_bind (Prog.All.attempt (silent_call trivial)) fun obs => ?_
  dsimp only
  split
  · refine silent_bind (mineRemote_silent wid h).attempt fun mined => ?_
    split <;> trivial
  · trivial

theorem mineLocal_silent (wid : Option WorkerId) (h : WorkerHandle) :
    (mineLocal wid h).All Act.Silent := by
  refine silent_bind (getWorker?_silent wid) fun w => ?_
  split
  · trivial
  · refine silent_bind (silent_call trivial) fun uuid => ?_
    split
    · trivial
    · split
      · trivial
      · exact silent_bind (silent_store trivial) fun _ => trivial

theorem addActivity_silent (wid : Option WorkerId) (h : WorkerHandle) (record : JsonObj) :
    (addActivity wid h record).All Act.Silent := by
  refine silent_bind (mineLocal_silent wid h).attempt fun mined => ?_
  split
  · refine silent_bind (Prog.All.attempt (silent_call trivial)) fun activity => ?_
    split <;> trivial
  · trivial

theorem observeLocal_silent (settings : Settings) (wid : Option WorkerId) (h : WorkerHandle)
    (rt : RuntimeAdapter) : (observeLocal settings wid h rt).All Act.Silent := by
  refine silent_bind (silent_call trivial) fun file => ?_
  refine silent_bind (Prog.all_ofExcept _) fun status => ?_
  refine silent_bind (silent_call trivial) fun candidates => ?_
  refine silent_bind (Prog.All.attempt (silent_call trivial)) fun obs => ?_
  dsimp only
  split
  · exact silent_bind (addActivity_silent wid h _) fun _ => trivial
  · trivial

theorem observeWorker_silent (settings : Settings) (wid : Option WorkerId) (h : WorkerHandle)
    (rt : RuntimeAdapter) : (observeWorker settings wid h rt).All Act.Silent := by
  unfold observeWorker
  split
  · exact observeRemote_silent wid h rt
  · exact observeLocal_silent settings wid h rt

theorem observeAndRecord_quiet (settings : Settings) (wid : Option WorkerId) (h : WorkerHandle)
    (publish : Bool) : (observeAndRecord settings wid h publish).All Act.Quiet := by
  refine quiet_bind (Prog.all_ofExcept _) fun rt => ?_
  refine quiet_bind (quiet_of_silent (observeWorker_silent settings wid h rt)) fun observed => ?_
  refine quiet_bind (recordEvent_quiet _ _ _) fun _ => ?_
  split
  · exact quiet_bind (quiet_call trivial) fun _ => trivial
  · trivial

theorem observeDispatched_quiet (settings : Settings) (wid : WorkerId) (h : WorkerHandle) :
    (observeDispatched settings wid h).All Act.Quiet :=
  quiet_bind (observeAndRecord_quiet settings (some wid) h true).attempt fun _ => trivial

theorem resolveHost_silent (settings : Settings) (task : Task) :
    (resolveHost settings task).All Act.Silent := by
  unfold resolveHost
  split
  · trivial
  · refine silent_bind (silent_store trivial) fun host => ?_
    cases host <;> trivial

theorem publishEntry_quiet (tid : TaskId) (status : Option JsonObj) :
    (publishEntry tid status).All Act.Quiet := by
  refine quiet_bind (quiet_store trivial) fun task => ?_
  cases task with
  | none => trivial
  | some _ => exact quiet_call trivial

/-! ### Requests -/

theorem validateRuntime_silent (item : TaskCreate) : (validateRuntime item).All Act.Silent := by
  unfold validateRuntime
  split
  · exact silent_bind (silent_badRequestOf _) fun _ => trivial
  · refine silent_bind (silent_checkId _ _) fun _ => ?_
    refine silent_bind (silent_store trivial) fun host => ?_
    cases host with
    | none => trivial
    | some _ =>
      refine silent_bind (silent_badRequestOf _) fun rt => ?_
      split <;> trivial

theorem validateResource_silent (item : TaskCreate) : (validateResource item).All Act.Silent := by
  unfold validateResource
  split
  · trivial
  · refine silent_bind (silent_badRequestOf _) fun adapter => ?_
    split
    · exact silent_checkId _ _
    · trivial

theorem validateEvaluator_silent (item : TaskCreate) :
    (validateEvaluator item).All Act.Silent := by
  unfold validateEvaluator
  split
  · trivial
  · refine silent_bind (silent_badRequestOf _) fun _ => ?_
    split <;> trivial

theorem validateMetadata_silent (settings : Settings) (item : TaskCreate) :
    (validateMetadata settings item).All Act.Silent := by
  unfold validateMetadata
  split
  · trivial
  · split
    · trivial
    · split
      · trivial
      · split
        · trivial
        · refine silent_bind (silent_call trivial) fun length => ?_
          split <;> trivial

theorem validateTaskCreate_silent (settings : Settings) (pid : String) (item : TaskCreate) :
    (validateTaskCreate settings pid item).All Act.Silent :=
  silent_bind (silent_checkId _ _) fun _ =>
    silent_bind (validateRuntime_silent item) fun _ =>
      silent_bind (validateResource_silent item) fun _ =>
        silent_bind (validateEvaluator_silent item) fun _ =>
          silent_bind (validateMetadata_silent settings item) fun _ =>
            silent_bind (silent_call trivial) fun _ => trivial

theorem validateAll_silent (settings : Settings) (pid : String) (items : List TaskCreate) :
    (validateAll settings pid items).All Act.Silent := by
  induction items with
  | nil => trivial
  | cons item items ih =>
    exact silent_bind (validateTaskCreate_silent settings pid item) fun _ =>
      silent_bind ih fun _ => trivial

theorem checkPingToken_silent (settings : Settings) (authorization : Option String) :
    (checkPingToken settings authorization).All Act.Silent := by
  unfold checkPingToken
  split
  · trivial
  · dsimp only
    split
    · trivial
    · split <;> trivial

end QuietLemmas

end Flotilla
