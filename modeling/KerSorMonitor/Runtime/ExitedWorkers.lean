import KerSorMonitor.Flotilla.Programs
import KerSorMonitor.Flotilla.Steering
import KerSorMonitor.Lib.Sequential
import KerSorMonitor.Runtime.Leftovers

/-!
# Workers that have exited (`observe_running`)

A worker writes `status.json` itself. Whatever it writes, the patrol that finds the worker gone is to
close its task; a file that cannot be decoded, or whose JSON cannot be read for another reason than
its syntax, ends the round before that.

Results:
1. `Lemmas.observeRound_spares`: the round of another task leaves the row alone.
2. `Lemmas.retire_closes`: a retirement closes the task.
3. `patrol_closes_iff`: the patrol closes the task exactly if the file is readable and the candidates
   can be counted.
-/

namespace Flotilla

open Keyed Threads TaskState
open Prog (call)

namespace Exited

/-! ## Status files -/

/-- The file is read, or counts as empty: it is absent, or too large, or its text has no errors but
those of the syntax. -/
def Readable (limits : PyJson.Limits) : StatusFile → Prop
  | .missing => True
  | .content bytes => statusMaxBytes < bytes.length ∨ ∃ text, PyJson.readText bytes = .ok text ∧
      ∀ e, PyJson.loads limits text = .error e → e.cls = .jsonDecodeError

/-- The file says that the worker is stuck. -/
def SaysStuck (limits : PyJson.Limits) (file : StatusFile) : Prop :=
  ∃ status s, loadStatus limits file = .ok status ∧ status.get? "state" = some (.str s) ∧
    s ∈ stuckStatusStates

/-- `WorkerHandle.backend` of a local worker. -/
def LocalRuntime.backend : LocalRuntime → String
  | .shell => "shell"
  | .claudeTmux => "claude_tmux"

/-! ## The patrol -/

/-- A local task that is running or stuck, with its handle and the workspace of its worker, and an
observation that reports the exit; no retirement of the task is in flight. -/
structure Gone (settings : Settings) (w : World) (wid : Option WorkerId) (h : WorkerHandle)
    (ws : Workspace) (obs : Observation) (task : Task) : Prop where
  registered : Dict.get? w.handles h.taskId = some (wid, h)
  row : w.db.task? h.taskId = some task
  live : task.state = .running ∨ task.state = .stuck
  free : h.taskId ∉ w.retiring
  isLocal : h.host? = none
  reported : ∃ env p rt, env.limits = settings.limits ∧ h.backend = LocalRuntime.backend rt ∧
    observed env ws p rt = .ok obs
  exited : obs.exited = true

/-- The answers of a patrol: the database and the stops do not fail, and what is read of the worker
is in its workspace; `counted` is what counting its candidates raises. What is read of the other
workers is arbitrary. -/
def Answers (h : WorkerHandle) (ws : Workspace) (obs : Observation) (counted : Option PyErr) :
    {β : Type} → Act β → Env → World → Prop
  | _, .store _, env, _ => env.raises = none
  | _, .stop _ _, env, _ => env.raises = none
  | _, .observe h', env, _ => h' = h → env.raises = none ∧ env.observation = obs
  | _, .readStatus path, env, _ => path = h.workspace → env.statusFile = ws.status
  | _, .candidateCount path, env, _ => path = h.workspace → env.raises = counted
  | _, .sessionActivity _ _, env, _ => ∀ record, env.record = some record → Unclaimed record
  | _, _, _, _ => True

/-- The task is closed: it is `DONE` or `FAILED` and the worker is ended, or it is `STUCK` as the file
says. -/
def Closed (limits : PyJson.Limits) (tid : TaskId) (wid : Option WorkerId) (file : StatusFile)
    (w : World) : Prop :=
  ∃ row, w.db.task? tid = some row ∧
    ((row.state = .done ∨ row.state = .failed) ∧
        (∀ worker ∈ wid, ∀ r, w.db.worker? worker = some r → r.isActive = false) ∨
      row.state = .stuck ∧ SaysStuck limits file)

/-- Every patrol from `w` closes the task. -/
def PatrolCloses (settings : Settings) (w : World) (wid : Option WorkerId) (h : WorkerHandle)
    (ws : Workspace) (obs : Observation) (counted : Option PyErr) : Prop :=
  ∀ t envs r w', (observeRunning settings).perform (process settings) t envs w = some (r, w') →
    (observeRunning settings).Permitted (process settings) t (Answers h ws obs counted) envs w →
    Closed settings.limits h.taskId wid ws.status w'

/-! ## What leaves a task alone -/

/-- The transaction writes no row of task `tid`. -/
def Spares (tid : TaskId) : {α : Type} → Transaction α → Prop
  | _, .setTaskState tid' _ _ => tid' ≠ tid
  | _, .finishWorker tid' _ _ _ => tid' ≠ tid
  | _, .endWorker _ => True
  | _, q => q.Quiet

/-- The action writes no row of task `tid`, and begins no retirement of it. -/
def ActSpares (tid : TaskId) : {β : Type} → Act β → Prop
  | _, .store q => Spares tid q
  | _, .beginRetire tid' => tid' ≠ tid
  | _, _ => True

namespace Lemmas

open TransactionLemmas Store.StoreLemmas Effects VerdictLemmas QuietLemmas

variable {settings : Settings} {tid : TaskId} {task : Task} {w w' : World} {env : Env} {β : Type}
  {wid : Option WorkerId} {h : WorkerHandle} {ws : Workspace} {obs : Observation}
  {counted : Option PyErr} {t : ThreadId}

theorem spares_of_quiet {q : Transaction β} (hq : q.Quiet) : Spares tid q := by
  cases q with
  | setTaskState | finishWorker => exact hq.elim
  | endWorker => exact trivial
  | _ => exact hq

theorem actSpares_of_quiet (a : Act β) (ha : a.Quiet) : ActSpares tid a := by
  cases a with
  | store q => exact spares_of_quiet ha
  | beginRetire tid' => exact ha.elim
  | _ => trivial

theorem task?_of_spares {q : Transaction β} (hq : Spares tid q) {clock : Clock} {db db' : Db}
    {r : Except PyErr β} (hx : q.exec settings clock db = (r, db')) : db'.task? tid = db.task? tid := by
  cases q with
  | setTaskState tid' newState expected =>
    rcases setTaskState_cases hx with ⟨rfl, -⟩ | ⟨row, st, hrow, -, -, -, rfl⟩
    · rfl
    · rw [task?_setStates_of hrow, if_neg (Ne.symm hq)]
  | finishWorker tid' wid target event =>
    rcases finishWorker_cases hx with ⟨rfl, -⟩ | ⟨row, st, -, -, -, -, -, htask⟩
    · rfl
    · rw [htask, if_neg (Ne.symm hq)]
  | endWorker worker =>
    cases hx
    rfl
  | createTasks | claimQueuedTasks | releaseTaskClaim | markStaleDispatchingLost | activateWorker
  | deleteTask | createWorker => exact hq.elim
  | _ => exact congrArg (Table.get? · tid) (db_of_quiet (by exact trivial) hx).1

/-- No transaction but an activation makes a worker active. -/
theorem inactive_of_spares {q : Transaction β} (hq : Spares tid q) {clock : Clock} {db db' : Db}
    {r : Except PyErr β} (hx : q.exec settings clock db = (r, db')) {worker : WorkerId}
    (hinactive : ∀ row, db.worker? worker = some row → row.isActive = false) :
    ∀ row, db'.worker? worker = some row → row.isActive = false := by
  have hchange := exec_worker hx worker
  intro row hrow
  rw [hrow] at hchange
  generalize hbefore : db.worker? worker = before at hchange
  cases hchange with
  | keep => exact hinactive row hbefore
  | step hstep =>
    have hended := hstep.ended (hinactive _ hbefore)
    have hactive := hinactive _ hbefore
    unfold Worker.isActive at hactive ⊢
    rwa [hended]
  | insert hinserts =>
    cases q with
    | activateWorker | createWorker => exact hq.elim
    | _ => exact hinserts.elim

/-- The task of an exited worker, while its retirement is due. -/
structure Awaits (tid : TaskId) (task : Task) (w : World) : Prop where
  row : w.db.task? tid = some task
  free : tid ∉ w.retiring

theorem db_of_exec_store {q : Transaction β} {r : Except PyErr β}
    (hx : World.exec settings env (.store q) w = (r, w')) :
    w'.db = w.db ∨ ∃ r, q.exec settings env.clock w.db = (r, w'.db) := by
  cases hraises : env.raises with
  | some e =>
    rw [exec_store_raised q hraises] at hx
    cases hx
    exact Or.inl rfl
  | none =>
    rw [exec_store_done q hraises] at hx
    cases hx
    exact Or.inr ⟨_, rfl⟩

theorem free_exec {a : Act β} (ha : ActSpares tid a) (settings : Settings) (env : Env)
    (hfree : tid ∉ w.retiring) : tid ∉ (World.exec settings env a w).2.retiring := by
  cases a with
  | beginRetire tid' =>
    simp only [World.exec]
    split
    · exact hfree
    · exact fun hmem => (List.mem_cons.mp hmem).elim (Ne.symm ha) hfree
  | endRetire tid' => exact fun hmem => hfree (List.mem_filter.mp hmem).1
  | _ =>
    rw [exec_retiring (by exact trivial)]
    exact hfree

/-- Only a transaction can change the database. -/
theorem db_exec_cases {a : Act β} (ha : ActSpares tid a) {r : Except PyErr β}
    (hx : World.exec settings env a w = (r, w')) :
    w'.db = w.db ∨ ∃ (q : Transaction β) (clock : Clock) (r : Except PyErr β), Spares tid q ∧
      q.exec settings clock w.db = (r, w'.db) := by
  by_cases hstore : ∃ q : Transaction β, a = .store q
  · obtain ⟨q, rfl⟩ := hstore
    exact (db_of_exec_store hx).imp_right fun ⟨r, hr⟩ => ⟨q, env.clock, r, ha, hr⟩
  · have hdb : (World.exec settings env a w).2.db = w.db := exec_db (fun q hq => hstore ⟨q, hq⟩) w
    rw [hx] at hdb
    exact Or.inl hdb

theorem row_exec {a : Act β} (ha : ActSpares tid a) {r : Except PyErr β}
    (hx : World.exec settings env a w = (r, w')) : w'.db.task? tid = w.db.task? tid := by
  rcases db_exec_cases ha hx with hdb | ⟨q, clock, r, hq, hr⟩
  · rw [hdb]
  · exact task?_of_spares hq hr

theorem awaits_exec {a : Act β} (ha : ActSpares tid a) {r : Except PyErr β}
    (hx : World.exec settings env a w = (r, w')) (hawaits : Awaits tid task w) :
    Awaits tid task w' where
  row := (row_exec ha hx).trans hawaits.row
  free := by
    have hfree := free_exec ha settings env hawaits.free
    rwa [hx] at hfree

theorem closed_exec {limits : PyJson.Limits} {file : StatusFile} {a : Act β} (ha : ActSpares tid a)
    {r : Except PyErr β} (hx : World.exec settings env a w = (r, w'))
    (hclosed : Closed limits tid wid file w) : Closed limits tid wid file w' := by
  rcases db_exec_cases ha hx with hdb | ⟨q, clock, r, hq, hr⟩
  · unfold Closed
    rwa [hdb]
  · obtain ⟨row, hrow, hstate⟩ := hclosed
    refine ⟨row, (task?_of_spares hq hr).trans hrow, hstate.imp_left fun ⟨hfinal, hinactive⟩ => ?_⟩
    exact ⟨hfinal, fun worker hworker => inactive_of_spares hq hr (hinactive worker hworker)⟩

/-- The runs of a part of the patrol. -/
abbrev Runs (settings : Settings) (t : ThreadId) (h : WorkerHandle) (ws : Workspace)
    (obs : Observation) (counted : Option PyErr) {α : Type} (p : Program α)
    (Q : Except PyErr α → World → Prop) (w : World) : Prop :=
  Safe (.alone (process settings) t (Answers h ws obs counted)) t p Q w

section Runs

variable {α : Type} {p : Program α}

theorem call_runs {a : Act α} {Q : Except PyErr α → World → Prop}
    (hq : ∀ env r w', Answers h ws obs counted a env w → World.exec settings env a w = (r, w') →
      Q r w') : Runs settings t h ws obs counted (.call a) Q w := Alone.call hq

theorem any_runs (p : Program α) (w : World) :
    Runs settings t h ws obs counted p (fun _ _ => True) w :=
  Alone.of_all (N := fun _ => True) (fun _ _ _ _ _ _ _ _ _ => trivial)
    (Prog.all_of_forall p fun _ => trivial) trivial

/-- A part that leaves the task alone leaves it waiting. -/
theorem and_awaits {Q : Except PyErr α → World → Prop} (hp : p.All (ActSpares tid))
    (hq : Runs settings t h ws obs counted p Q w) (hawaits : Awaits tid task w) :
    Runs settings t h ws obs counted p (fun r w => Q r w ∧ Awaits tid task w) w :=
  Safe.and_all (fun _ _ hP hrely => hrely rfl ▸ hP)
    (fun _ ha _ _ _ _ hP hx => awaits_exec ha hx hP) hp hq hawaits

theorem and_row {Q : Except PyErr α → World → Prop} (hp : p.All (ActSpares tid))
    (hq : Runs settings t h ws obs counted p Q w) (hrow : w.db.task? tid = some task) :
    Runs settings t h ws obs counted p (fun r w => Q r w ∧ w.db.task? tid = some task) w :=
  Safe.and_all (P := fun w => w.db.task? tid = some task)
    (fun _ _ hP hrely => hrely rfl ▸ hP)
    (fun _ ha _ _ _ _ hP hx => (row_exec ha hx).trans hP) hp hq hrow

theorem closed_runs {limits : PyJson.Limits} {file : StatusFile} (hp : p.All (ActSpares tid))
    (hclosed : Closed limits tid wid file w) :
    Runs settings t h ws obs counted p (fun _ => Closed limits tid wid file) w :=
  Alone.of_all (fun _ ha _ _ _ _ _ hP hx => closed_exec ha hx hP) hp hclosed

end Runs

/-! ### Programs -/

section Programs

theorem spares_bind {α : Type} {p : Program α} {f : α → Program β} (hp : p.All (ActSpares tid))
    (hf : ∀ a, (f a).All (ActSpares tid)) : (p >>= f).All (ActSpares tid) := Prog.All.bind hp hf

theorem spares_quiet {α : Type} {p : Program α} (hp : p.All Act.Quiet) : p.All (ActSpares tid) :=
  hp.mono actSpares_of_quiet

theorem spares_call {a : Act β} (ha : ActSpares tid a) :
    (call a : Program β).All (ActSpares tid) := Prog.all_call.mpr ha

theorem spares_store {q : Transaction β} (hq : Spares tid q) : (store q).All (ActSpares tid) :=
  Prog.all_call.mpr hq

theorem recordEvent_spares (tid' : TaskId) (type : String) (payload : JsonObj) :
    (recordEvent tid' type payload).All (ActSpares tid) :=
  spares_quiet (recordEvent_quiet tid' type payload)

theorem stopForRetire_spares (tid' : TaskId) (wid : Option WorkerId) (stopRuntime : Bool)
    (handle : Option WorkerHandle) :
    (stopForRetire tid' wid stopRuntime handle).All (ActSpares tid) := by
  unfold stopForRetire
  split
  · exact Prog.All.tryCatch (spares_call trivial) fun exc => (recordEvent_spares _ _ _).ignoring
  · trivial

theorem concludeRetire_spares (task : Task) (tid' : TaskId) (wid : Option WorkerId)
    (worker : Option Worker) (result : Option String) :
    (concludeRetire task tid' wid worker result).All (ActSpares tid) := by
  refine spares_bind ?_ fun _ => spares_bind (spares_call trivial) fun _ => trivial
  unfold releaseForRetire
  split
  · trivial
  · split
    · refine Prog.All.tryCatch ?_ fun exc => (recordEvent_spares _ _ _).ignoring
      exact spares_bind (Prog.all_ofExcept _) fun _ => spares_call trivial
    · trivial

theorem commitRetire_spares {tid' : TaskId} (hne : tid' ≠ tid) (task : Task) (wid : Option WorkerId)
    (worker : Option Worker) (terminal : Option String) (handle : Option WorkerHandle) :
    (commitRetire task tid' wid worker terminal handle).All (ActSpares tid) := by
  refine spares_bind (spares_quiet (UndispatchedLemmas.gateTerminal_quiet _ _ _)) fun gated => ?_
  obtain ⟨finalState, event⟩ := gated
  dsimp only
  split
  · refine spares_bind (spares_store hne) fun committed => ?_
    split
    · exact concludeRetire_spares _ _ _ _ _
    · trivial
  · refine spares_bind ?_ fun _ => concludeRetire_spares _ _ _ _ _
    cases wid with
    | none => trivial
    | some worker => exact spares_store trivial

theorem retire_spares {tid' : TaskId} (hne : tid' ≠ tid) (wid : Option WorkerId)
    (terminal : Option String) (stopRuntime : Bool) :
    (retire tid' wid terminal stopRuntime).All (ActSpares tid) := by
  unfold retire
  split
  · refine spares_bind (spares_store trivial) fun row => ?_
    cases row with
    | none => trivial
    | some row =>
      dsimp only
      split
      · trivial
      · exact spares_bind (spares_store hne) fun _ => trivial
  · refine spares_bind (spares_call hne) fun begun => ?_
    cases begun with
    | none => trivial
    | some handle =>
      refine Prog.All.tryFinally ?_ (spares_call trivial)
      refine spares_bind (spares_quiet (quiet_of_silent (getWorker?_silent _))) fun worker => ?_
      refine spares_bind (spares_store trivial) fun row => ?_
      cases row with
      | none => exact spares_bind (spares_call trivial) fun _ => trivial
      | some row =>
        dsimp only
        split
        · exact spares_bind (spares_call trivial) fun _ => trivial
        · exact spares_bind (stopForRetire_spares _ _ _ _) fun _ => commitRetire_spares hne _ _ _ _ _

theorem publishEntry_spares (tid' : TaskId) (status : Option JsonObj) :
    (publishEntry tid' status).All (ActSpares tid) := by
  refine spares_bind (spares_store trivial) fun row => ?_
  cases row with
  | none => trivial
  | some row => exact spares_call trivial

/-- What follows the observation and the retirement of a worker. -/
theorem observeRound_spares {tid' : TaskId} (hne : tid' ≠ tid) (settings : Settings)
    (entry : HandleEntry) : (observeRound settings tid' entry).All (ActSpares tid) := by
  refine spares_bind (Prog.All.attempt ?_) fun r => ?_
  · refine spares_bind (spares_quiet (observeAndRecord_quiet _ _ _ _)) fun record => ?_
    split
    · trivial
    · refine spares_bind (retire_spares hne _ _ _) fun committed => ?_
      cases committed with
      | none => trivial
      | some state => exact spares_bind (recordEvent_spares _ _ _) fun _ => trivial
  · cases r with
    | error e => trivial
    | ok found => exact spares_bind (publishEntry_spares _ _).ignoring fun _ => trivial

theorem observeRounds_spares (settings : Settings) {entries : List (TaskId × HandleEntry)}
    (hne : ∀ entry ∈ entries, entry.1 ≠ tid) :
    (observeRounds settings entries).All (ActSpares tid) := by
  induction entries with
  | nil => trivial
  | cons entry entries ih =>
    refine spares_bind (observeRound_spares (hne entry List.mem_cons_self) _ _) fun n => ?_
    exact spares_bind (ih fun entry hmem => hne entry (List.mem_cons_of_mem _ hmem)) fun _ => trivial

end Programs

/-! ### The observation -/

section Observation

variable {status : JsonObj}

theorem getTask_runs (hrow : w.db.task? tid = some task) :
    Runs settings t h ws obs counted (store (.getTask tid))
      (fun r w' => r = .ok (some task) ∧ w' = w) w := by
  refine call_runs fun env r w' hallow hx => ?_
  have hraises : env.raises = none := hallow
  rw [exec_store_done _ hraises] at hx
  cases hx
  exact ⟨congrArg Except.ok hrow, rfl⟩

/-- What is known of the session is added to the record. -/
theorem addActivity_runs (wid : Option WorkerId) (h' : WorkerHandle) (record : JsonObj) :
    Runs settings t h ws obs counted (addActivity wid h' record)
      (fun r _ => ∃ session, Unclaimed session ∧ r = .ok (record.update session)) w := by
  refine Safe.bind (Safe.attempt ((any_runs _ w).mono fun uuid w _ => ?_))
  rcases uuid with _ | _ | uuid
  · exact ⟨[], unclaimed_nil, rfl⟩
  · exact ⟨[], unclaimed_nil, rfl⟩
  · refine Safe.bind (Safe.attempt (call_runs fun env r w' hallow hx => ?_))
    have hsession : ∀ activity, r = .ok (some activity) → Unclaimed activity := by
      rintro activity rfl
      exact hallow activity (outside_eq_ok (congrArg Prod.fst hx))
    rcases r with e | _ | activity
    · exact ⟨_, unclaimed_session uuid unclaimed_nil, rfl⟩
    · exact ⟨_, unclaimed_session uuid unclaimed_nil, rfl⟩
    · exact ⟨_, unclaimed_session uuid (hsession activity rfl), rfl⟩

/-- A readable file leads to a record. -/
theorem observeLocal_runs (hload : loadStatus settings.limits ws.status = .ok status)
    (wid : Option WorkerId) (rt : RuntimeAdapter) :
    Runs settings t h ws obs none (observeLocal settings wid h rt)
      (fun r _ => ∃ candidates session, Unclaimed session ∧
        r = .ok ((adoptObservation status (localRecord status candidates) obs).update session,
          obs.exited)) w := by
  refine Safe.bind (call_runs fun env r w' hallow hx => ?_)
  have hfile : env.statusFile = ws.status := hallow rfl
  cases hx
  change Runs _ _ _ _ _ _ (Prog.ofExcept (loadStatus settings.limits env.statusFile) >>= _) _ _
  rw [hfile, hload, Prog.ofExcept_ok_bind]
  refine Safe.bind (call_runs fun env r w' hallow hx => ?_)
  have hcount : World.exec settings env (.candidateCount h.workspace) w = (.ok env.count, w) := by
    have hraises : env.raises = none := hallow rfl
    simp only [World.exec, Env.outside, hraises]
  rw [hcount] at hx
  cases hx
  dsimp only
  refine Safe.bind (Safe.attempt (call_runs fun env' r w' hallow hx => ?_))
  have hobs : World.exec settings env' (.observe h) w = (.ok obs, w) := by
    obtain ⟨hraises, hobservation⟩ := hallow rfl
    simp only [World.exec, Env.outside, hraises, hobservation]
  rw [hobs] at hx
  cases hx
  dsimp only
  split
  · refine Safe.seq (addActivity_runs wid h _) ?_ ?_
    · rintro record w' ⟨session, hsession, hrecord⟩
      cases hrecord
      exact ⟨_, session, hsession, rfl⟩
    · rintro e w' ⟨session, -, hrecord⟩
      cases hrecord
  · exact ⟨_, [], unclaimed_nil, rfl⟩

/-- An event of a task that is there is recorded. -/
theorem recordEvent_runs (type : String) (payload : JsonObj) (hrow : w.db.task? tid = some task) :
    Runs settings t h ws obs counted (recordEvent tid type payload) (fun r _ => r = .ok ()) w := by
  refine Safe.bind (Safe.bind (call_runs fun stamp r w' _ hx => ?_))
  cases hx
  refine call_runs fun env r w' hallow hx => ?_
  have hraises : env.raises = none := hallow
  rw [exec_store_done _ hraises] at hx
  cases hx
  have happend : Store.appendEvent settings ⟨tid, type, payload, stamp.clock.now⟩ w.db
      = (_, _) := Prod.ext rfl rfl
  rcases appendEvent_cases happend with ⟨-, hno, -⟩ | ⟨hok, -⟩
  · have hnone : w.db.task? tid = none := Table.get?_eq_none_iff.mpr hno
    rw [hrow] at hnone
    cases hnone
  · exact hok

/-- The observation of an exited worker with a readable file. -/
theorem observeAndRecord_runs {rt : RuntimeAdapter} (hrt : Runtime.get h.backend = .ok rt)
    (hlocal : h.host? = none) (hload : loadStatus settings.limits ws.status = .ok status)
    (wid : Option WorkerId) (hawaits : Awaits h.taskId task w) :
    Runs settings t h ws obs none (observeAndRecord settings wid h false)
      (fun r w => (∃ candidates session, Unclaimed session ∧
        r = .ok (observedRecord status candidates obs session)) ∧ Awaits h.taskId task w) w := by
  refine and_awaits (spares_quiet (observeAndRecord_quiet _ _ _ _)) ?_ hawaits
  have hworker : observeWorker settings wid h rt = observeLocal settings wid h rt := by
    unfold observeWorker
    rw [hlocal]
    rfl
  unfold observeAndRecord
  rw [hrt, Prog.ofExcept_ok_bind, hworker]
  have hsilent : (observeLocal settings wid h rt).All (ActSpares h.taskId) :=
    spares_quiet (quiet_of_silent (observeLocal_silent _ _ _ _))
  refine Safe.seq (and_awaits hsilent (observeLocal_runs hload wid rt) hawaits) ?_ ?_
  · rintro found w' ⟨⟨candidates, session, hsession, hfound⟩, hawaits⟩
    cases hfound
    refine Safe.seq (recordEvent_runs "status" _ hawaits.row) ?_ ?_
    · exact fun _ w' _ => ⟨candidates, session, hsession, rfl⟩
    · exact fun e w' hok => (by cases hok)
  · rintro e w' ⟨⟨candidates, session, -, hfound⟩, -⟩
    cases hfound

/-- An observation that cannot read its file, or count the candidates, raises. -/
theorem observeAndRecord_fails (hlocal : h.host? = none)
    (hfails : (∃ e, loadStatus settings.limits ws.status = .error e) ∨ counted ≠ none)
    (wid : Option WorkerId) :
    Runs settings t h ws obs counted (observeAndRecord settings wid h false)
      (fun r _ => ∃ e, r = .error e) w := by
  unfold observeAndRecord
  refine Safe.seq (any_runs _ w) (fun rt w _ => ?_) (fun e w _ => ⟨e, rfl⟩)
  have hworker : observeWorker settings wid h rt = observeLocal settings wid h rt := by
    unfold observeWorker
    rw [hlocal]
    rfl
  rw [hworker]
  refine Safe.seq (Q := fun r _ => ∃ e, r = .error e) ?_ (fun _ _ hr => by cases hr.choose_spec)
    (fun e w _ => ⟨e, rfl⟩)
  refine Safe.bind (call_runs fun env r w' hallow hx => ?_)
  have hfile : env.statusFile = ws.status := hallow rfl
  cases hx
  change Runs _ _ _ _ _ _ (Prog.ofExcept (loadStatus settings.limits env.statusFile) >>= _) _ _
  rw [hfile]
  cases hload : loadStatus settings.limits ws.status with
  | error e => exact ⟨e, rfl⟩
  | ok status =>
    rw [Prog.ofExcept_ok_bind]
    obtain ⟨e, rfl⟩ : ∃ e, counted = some e := by
      rcases hfails with ⟨e, he⟩ | hcounted
      · rw [hload] at he
        cases he
      · exact Option.ne_none_iff_exists'.mp hcounted
    refine Safe.bind (call_runs fun env r w' hallow hx => ?_)
    have hcount : World.exec settings env (.candidateCount h.workspace) w = (.error e, w) := by
      have hraises : env.raises = some e := hallow rfl
      simp only [World.exec, Env.outside, hraises]
    rw [hcount] at hx
    cases hx
    exact ⟨e, rfl⟩

end Observation

/-! ### The retirement -/

section Retirement

variable {limits : PyJson.Limits} {file : StatusFile}

theorem transition_of_live (hlive : task.state = .running ∨ task.state = .stuck) {state : String}
    (hstate : state = "DONE" ∨ state = "FAILED") :
    ∃ st, transition task.state state = .ok st ∧ (st = .done ∨ st = .failed) := by
  rcases hlive with hlive | hlive <;> rw [hlive] <;> rcases hstate with rfl | rfl
  · exact ⟨.done, rfl, Or.inl rfl⟩
  · exact ⟨.failed, rfl, Or.inr rfl⟩
  · exact ⟨.done, rfl, Or.inl rfl⟩
  · exact ⟨.failed, rfl, Or.inr rfl⟩

/-- The end of a live task is committed. -/
theorem finishWorker_closes {db : Db} (hrow : db.task? tid = some task)
    (hlive : task.state = .running ∨ task.state = .stuck) {state : String}
    (hstate : state = "DONE" ∨ state = "FAILED") {event : Option Event}
    (hevent : ∀ e ∈ event, e.taskId = tid) (now : String) (wid : Option WorkerId) :
    ∃ db', Store.finishWorker now tid wid state event db = (.ok true, db') ∧
      ∃ row, db'.task? tid = some row ∧ (row.state = .done ∨ row.state = .failed) ∧
        ∀ worker ∈ wid, ∀ r, db'.worker? worker = some r → r.isActive = false := by
  obtain ⟨st, htransition, hfinal⟩ := transition_of_live hlive hstate
  have hok : (Store.finishWorker now tid wid state event db).1 = .ok true := by
    unfold Store.finishWorker connection
    simp only [hrow, htransition]
    cases event with
    | none => rfl
    | some e =>
      have hset := task?_setStates_of hrow st now tid
      rw [if_pos rfl] at hset
      have hhas : (Store.endWorkerOpt (db.setStates
          (fun t => t.id = tid && t.state = task.state) st now) wid now).task.Has e.taskId := by
        rw [hevent e rfl, endWorkerOpt_task]
        exact Table.has_iff_isSome.mpr (Option.isSome_iff_exists.mpr ⟨_, hset⟩)
      simp only [Db.insertEvent, dif_pos hhas]
  refine ⟨_, Prod.ext hok rfl, ?_⟩
  rcases finishWorker_cases (Prod.ext hok rfl :
      Store.finishWorker now tid wid state event db = (.ok true, _)) with
    ⟨-, ⟨hfalse, -⟩ | ⟨e, herror⟩⟩ | ⟨row, st', hrow', htransition', -, hworker, -, htask⟩
  · cases hfalse
  · cases herror
  · cases hrow.symm.trans hrow'
    cases htransition.symm.trans htransition'
    refine ⟨_, (htask tid).trans (if_pos rfl), hfinal, ?_⟩
    intro worker hmem r hr
    obtain rfl := Option.mem_def.mp hmem
    unfold Db.worker? at hr
    rw [hworker] at hr
    have hended := (Db.worker?_endWorkerRow db worker now worker).symm.trans hr
    obtain ⟨before, hbefore, rfl⟩ := Option.map_eq_some_iff.mp hended
    have hid : before.id = worker := Table.key_of_get? hbefore
    cases hactive : before.isActive with
    | true => simp [hid, Worker.isActive]
    | false => simp [hactive]

theorem stopForRetire_runs (tid' : TaskId) (wid : Option WorkerId) (handle : Option WorkerHandle) :
    Runs settings t h ws obs counted (stopForRetire tid' wid true handle)
      (fun r _ => r = .ok ()) w := by
  cases handle with
  | none => exact rfl
  | some handle =>
    refine Safe.tryCatch ((any_runs _ w).mono fun r w _ => ?_)
    cases r with
    | ok _ => exact rfl
    | error e => exact Safe.ignoring (any_runs _ w) fun _ _ => rfl

/-- The evaluator can only turn `DONE` into `FAILED`. -/
theorem gateTerminal_runs (hlive : task.state = .running ∨ task.state = .stuck) {terminal : String}
    (hterminal : terminal = "DONE" ∨ terminal = "FAILED") (handle : Option WorkerHandle) :
    Runs settings t h ws obs counted (gateTerminal task (some terminal) handle)
      (fun r _ => ∃ state event, r = .ok (some state, event) ∧ (state = "DONE" ∨ state = "FAILED") ∧
        ∀ e ∈ event, e.taskId = task.id) w := by
  have hopen : task.state.isTerminal = false := by rcases hlive with hlive | hlive <;> rw [hlive] <;> rfl
  unfold gateTerminal
  rw [if_neg (by simp [hopen])]
  split
  · unfold evaluationEvent
    split
    · exact ⟨"DONE", none, rfl, Or.inl rfl, fun e he => (by cases he)⟩
    · next name _ =>
      refine Safe.bind (Safe.bind (Safe.attempt ((any_runs _ w).mono fun result w _ => ?_)))
      refine Safe.bind (Safe.bind (call_runs fun env r w' _ hx => ?_))
      cases hx
      refine ⟨_, _, rfl, ?_, fun e he => ?_⟩
      · cases result with
        | error exc => exact Or.inr rfl
        | ok result =>
          unfold evaluationOutcome
          dsimp only
          split
          · exact Or.inl rfl
          · exact Or.inr rfl
      · obtain rfl := Option.some.inj (Option.mem_def.mp he)
        rfl
  · exact ⟨terminal, none, rfl, hterminal, fun e he => (by cases he)⟩

theorem commitRetire_closes (hrow : w.db.task? tid = some task)
    (hlive : task.state = .running ∨ task.state = .stuck) (wid : Option WorkerId)
    (worker : Option Worker) {terminal : String} (hterminal : terminal = "DONE" ∨ terminal = "FAILED")
    (handle : Option WorkerHandle) :
    Runs settings t h ws obs counted (commitRetire task tid wid worker (some terminal) handle)
      (fun _ => Closed limits tid wid file) w := by
  obtain rfl : task.id = tid := Table.key_of_get? hrow
  have hquiet : (gateTerminal task (some terminal) handle).All (ActSpares task.id) :=
    spares_quiet (UndispatchedLemmas.gateTerminal_quiet _ _ _)
  refine Safe.seq (and_row hquiet (gateTerminal_runs hlive hterminal handle) hrow) ?_ ?_
  · rintro gated w ⟨⟨state, event, hgated, hstate, hevent⟩, hrow⟩
    cases hgated
    have hstate' : nonEmpty? (some state) = some state := by
      rcases hstate with rfl | rfl <;> rfl
    dsimp only
    rw [hstate']
    refine Safe.bind (call_runs fun env r w' hallow hx => ?_)
    have hraises : env.raises = none := hallow
    obtain ⟨db', hfinish, row, hrow', hfinal, hinactive⟩ :=
      finishWorker_closes hrow hlive hstate hevent env.clock.now wid
    have hexec : (Transaction.finishWorker task.id wid state event).exec settings env.clock w.db
        = (.ok true, db') := hfinish
    rw [exec_store_done _ hraises, hexec] at hx
    cases hx
    dsimp only
    rw [if_pos rfl]
    exact closed_runs (concludeRetire_spares _ _ _ _ _) ⟨row, hrow', Or.inl ⟨hfinal, hinactive⟩⟩
  · rintro e w ⟨⟨state, event, hgated, -⟩, -⟩
    cases hgated

theorem retireBody_closes (hrow : w.db.task? tid = some task)
    (hlive : task.state = .running ∨ task.state = .stuck) (wid : Option WorkerId) {terminal : String}
    (hterminal : terminal = "DONE" ∨ terminal = "FAILED") (handle : Option WorkerHandle) :
    Runs settings t h ws obs counted (retireBody tid wid (some terminal) true handle)
      (fun _ => Closed limits tid wid file) w := by
  have hopen : task.state.isTerminal = false := by
    rcases hlive with hlive | hlive <;> rw [hlive] <;> rfl
  have hworker : Runs settings t h ws obs counted (getWorker? wid)
      (fun r w => (∃ worker, r = .ok worker) ∧ w.db.task? tid = some task) w := by
    refine and_row (spares_quiet (quiet_of_silent (getWorker?_silent wid))) ?_ hrow
    cases wid with
    | none => exact ⟨none, rfl⟩
    | some worker =>
      refine call_runs fun env r w' hallow hx => ?_
      have hraises : env.raises = none := hallow
      rw [exec_store_done _ hraises] at hx
      cases hx
      exact ⟨_, rfl⟩
  refine Safe.seq hworker ?_ ?_
  · rintro worker w ⟨-, hrow⟩
    refine Safe.seq (getTask_runs hrow) ?_ ?_
    · rintro row w' ⟨hok, rfl⟩
      cases hok
      dsimp only
      rw [if_neg (by simp [hopen])]
      refine Safe.seq (and_row (stopForRetire_spares _ _ _ _) (stopForRetire_runs tid wid handle) hrow)
        ?_ ?_
      · exact fun _ w hboth => commitRetire_closes hboth.2 hlive wid worker hterminal handle
      · rintro e w ⟨hok, -⟩
        cases hok
    · rintro e w' ⟨hok, -⟩
      cases hok
  · rintro e w ⟨⟨worker, hok⟩, -⟩
    cases hok

/-- A retirement as `DONE` or `FAILED` closes the task. -/
theorem retire_closes (hawaits : Awaits tid task w)
    (hlive : task.state = .running ∨ task.state = .stuck) (wid : Option WorkerId) {terminal : String}
    (hterminal : terminal = "DONE" ∨ terminal = "FAILED") :
    Runs settings t h ws obs counted (retire tid wid (some terminal) true)
      (fun _ => Closed limits tid wid file) w := by
  have hnot : some terminal ≠ some "STUCK" := by rcases hterminal with rfl | rfl <;> decide
  unfold retire
  rw [if_neg hnot]
  refine Safe.bind (call_runs fun env r w' _ hx => ?_)
  have hexec : World.exec settings env (.beginRetire tid) w
      = (.ok (some ((Dict.get? w.handles tid).map Prod.snd)),
        { w with retiring := tid :: w.retiring }) := by
    have hfree : w.retiring.contains tid = false := by simpa using hawaits.free
    simp only [World.exec, hfree, Bool.false_eq_true, ↓reduceIte]
  rw [hexec] at hx
  cases hx
  dsimp only
  have hrow : ({ w with retiring := tid :: w.retiring } : World).db.task? tid = some task :=
    hawaits.row
  have hbody : Runs settings t h ws obs counted (retireBody tid wid (some terminal) true
      ((Dict.get? w.handles tid).map Prod.snd)) (fun _ => Closed limits tid wid file)
      { w with retiring := tid :: w.retiring } :=
    retireBody_closes hrow hlive wid hterminal _
  refine Safe.tryFinally (hbody.mono fun r w hclosed => ?_)
  have hend : (call (.endRetire tid) : Program Unit).All (ActSpares tid) :=
    Prog.all_call.mpr trivial
  refine (closed_runs hend hclosed).mono fun r' w hclosed => ?_
  cases r' <;> exact hclosed

/-- A retirement as `STUCK` leaves the task stuck. -/
theorem retireStuck_closes (hawaits : Awaits tid task w)
    (hlive : task.state = .running ∨ task.state = .stuck) (hfile : SaysStuck limits file)
    (wid : Option WorkerId) :
    Runs settings t h ws obs counted (retire tid wid (some "STUCK") true)
      (fun _ => Closed limits tid wid file) w := by
  unfold retire
  rw [if_pos rfl]
  refine Safe.seq (getTask_runs hawaits.row) ?_ ?_
  · rintro row w' ⟨hok, rfl⟩
    cases hok
    dsimp only
    by_cases hstuck : task.state = .stuck
    · rw [if_pos hstuck]
      exact ⟨task, hawaits.row, Or.inr ⟨hstuck, hfile⟩⟩
    · rw [if_neg hstuck]
      have hrunning := hlive.resolve_right hstuck
      refine Safe.bind (call_runs fun env r w'' hallow hx => ?_)
      have hraises : env.raises = none := hallow
      have hset : (Transaction.setTaskState tid "STUCK" (some [.running, .paused, .stuck])).exec
          settings env.clock w'.db
          = (.ok true, w'.db.setStates (fun row => row.id = tid && row.state = task.state) .stuck
            env.clock.now) := by
        have hlegal : transition TaskState.running "STUCK" = .ok .stuck := rfl
        simp [Transaction.exec, Store.setTaskState, connection, hawaits.row, hrunning, hlegal]
      rw [exec_store_done _ hraises, hset] at hx
      cases hx
      exact ⟨_, (task?_setStates_of hawaits.row _ _ tid).trans (if_pos rfl), Or.inr ⟨rfl, hfile⟩⟩
  · rintro e w' ⟨hok, -⟩
    cases hok

end Retirement

/-! ### The verdict -/

section Verdict

open LeftoverLemmas

variable {limits : PyJson.Limits} {file : StatusFile}

theorem readable_iff : Readable limits file ↔ ∃ status, loadStatus limits file = .ok status := by
  cases file with
  | missing => exact ⟨fun _ => ⟨[], rfl⟩, fun _ => trivial⟩
  | content bytes =>
    unfold Readable loadStatus
    by_cases hlen : bytes.length ≤ statusMaxBytes
    · have hsmall : ¬ statusMaxBytes < bytes.length := by omega
      simp only [if_pos hlen, hsmall, false_or]
      cases hread : PyJson.readText bytes with
      | error e => simp
      | ok text =>
        cases hloads : PyJson.loads limits text with
        | ok v => cases v <;> simp [hloads]
        | error e =>
          by_cases hcls : e.cls = .jsonDecodeError <;> simp [hloads, hcls]
    · simp only [if_neg hlen, Nat.lt_of_not_le hlen, true_or, true_iff]
      exact ⟨[], rfl⟩

theorem stuck_of_takeChars {s : String} (hs : takeChars 64 s ∈ stuckStatusStates) :
    s ∈ stuckStatusStates := by
  have hterminal : takeChars 64 s ∈ terminalStatusStates :=
    List.mem_append_left _ (List.mem_append_right _ hs)
  have hlen := (plain_of_terminal (terminal_of_takeChars (List.contains_iff_mem.mpr hterminal))).1
  rwa [takeChars_of_length_le (by omega)] at hs

/-- The state that an absent one defaults to is not stuck. -/
theorem get?_of_stuck {status : JsonObj} {s : String}
    (hstate : (status.get? "state").getD (.str "running") = .str s) (hs : s ∈ stuckStatusStates) :
    status.get? "state" = some (.str s) := by
  cases hget : status.get? "state" with
  | none =>
    rw [hget] at hstate
    cases hstate
    exact absurd hs (by decide)
  | some v =>
    rw [hget] at hstate
    exact congrArg some hstate

/-- An adapter reports a stuck worker only if the file says so. -/
theorem saysStuck_of_observed {surroundings : Surroundings} {p : WorkerProcess} {rt : LocalRuntime}
    (hobs : observed surroundings ws p rt = .ok obs) {s : String} (hstate : obs.state = .str s)
    (hs : s ∈ stuckStatusStates) : SaysStuck surroundings.limits ws.status := by
  cases rt with
  | shell =>
    rw [← Except.ok.inj hobs] at hstate
    unfold Shell.observe at hstate
    rw [← Json.str.inj hstate] at hs
    split at hs
    · exact absurd hs (by decide)
    · split at hs <;> exact absurd hs (by decide)
  | claudeTmux =>
    unfold observed Tmux.observeLocally at hobs
    cases hload : loadStatus surroundings.limits ws.status with
    | error e =>
      rw [hload] at hobs
      cases hobs
    | ok status =>
      rw [hload] at hobs
      rw [← Except.ok.inj hobs] at hstate
      exact ⟨status, s, hload, get?_of_stuck hstate hs, hs⟩

/-- The verdict on a worker that has exited is terminal. -/
theorem verdict_of_gone (hgone : Gone settings w wid h ws obs task) {status : JsonObj}
    (hload : loadStatus settings.limits ws.status = .ok status) (candidates : Nat)
    {session : JsonObj} (hsession : Unclaimed session) :
    ∃ terminal, recordTerminal (observedRecord status candidates obs session) = some terminal ∧
      ((terminal = "DONE" ∨ terminal = "FAILED") ∨
        terminal = "STUCK" ∧ SaysStuck settings.limits ws.status) := by
  obtain ⟨surroundings, p, rt, hlimits, -, hobs⟩ := hgone.reported
  have hexit : mapTerminal none true (lastChars 300 obs.paneTail) = some "FAILED" := rfl
  rw [recordTerminal_observedRecord candidates (unclaimed_observed hobs) hsession, hgone.exited,
    mapTerminal_eq, hexit]
  cases hstate : (recordedState status obs).str? with
  | none => exact ⟨"FAILED", rfl, Or.inl (Or.inr rfl)⟩
  | some s =>
    have hrecorded : recordedState status obs = .str s := by
      generalize recordedState status obs = v at hstate
      cases v <;> cases hstate
      rfl
    rw [Option.map_some, Option.bind_some]
    unfold statusClass
    by_cases hdone : successStatusStates.contains (takeChars 64 s) = true
    · rw [if_pos hdone]
      exact ⟨"DONE", rfl, Or.inl (Or.inl rfl)⟩
    rw [if_neg hdone]
    by_cases hstuck : stuckStatusStates.contains (takeChars 64 s) = true
    · rw [if_pos hstuck]
      refine ⟨"STUCK", rfl, Or.inr ⟨rfl, ?_⟩⟩
      have hs := stuck_of_takeChars (List.contains_iff_mem.mp hstuck)
      unfold recordedState at hrecorded
      split at hrecorded
      · exact ⟨status, s, hload, get?_of_stuck hrecorded hs, hs⟩
      · exact hlimits ▸ saysStuck_of_observed hobs hrecorded hs
    · rw [if_neg hstuck]
      split
      · exact ⟨"FAILED", rfl, Or.inl (Or.inr rfl)⟩
      · exact ⟨"FAILED", rfl, Or.inl (Or.inr rfl)⟩

end Verdict

/-! ### The rounds -/

section Rounds

variable {before after : List (TaskId × HandleEntry)} {entry : HandleEntry}

/-- The observation of an exited worker with a readable file retires it. -/
theorem observeEntry_closes (hgone : Gone settings w wid h ws obs task)
    (hreadable : Readable settings.limits ws.status) {w' : World}
    (hawaits : Awaits h.taskId task w') :
    Runs settings t h ws obs none (observeEntry settings h.taskId wid h)
      (fun _ => Closed settings.limits h.taskId wid ws.status) w' := by
  obtain ⟨status, hload⟩ := readable_iff.mp hreadable
  obtain ⟨_, _, rt, -, hbackend, -⟩ := hgone.reported
  obtain ⟨adapter, hadapter⟩ : ∃ adapter, Runtime.get h.backend = .ok adapter := by
    rw [hbackend]
    cases rt <;> exact ⟨_, rfl⟩
  refine Safe.seq (observeAndRecord_runs hadapter hgone.isLocal hload wid hawaits) ?_ ?_
  · rintro record w' ⟨⟨candidates, session, hsession, hrecord⟩, hawaits⟩
    obtain ⟨terminal, hterminal, hcases⟩ := verdict_of_gone hgone hload candidates hsession
    rw [← Except.ok.inj hrecord] at hterminal
    rw [hterminal]
    have hretire : Runs settings t h ws obs none (retire h.taskId wid (some terminal) true)
        (fun _ => Closed settings.limits h.taskId wid ws.status) w' := by
      rcases hcases with hfinal | ⟨rfl, hfile⟩
      · exact retire_closes hawaits hgone.live wid hfinal
      · exact retireStuck_closes hawaits hgone.live hfile wid
    refine Safe.seq hretire (fun committed w' hclosed => ?_) fun _ _ hclosed => hclosed
    cases committed with
    | none => exact hclosed
    | some state =>
      refine closed_runs ?_ hclosed
      exact spares_bind (recordEvent_spares _ _ _) fun _ => trivial
  · rintro e w' ⟨⟨_, _, -, hrecord⟩, -⟩
    exact nomatch hrecord

theorem observeRound_closes (hgone : Gone settings w wid h ws obs task)
    (hreadable : Readable settings.limits ws.status) {w' : World}
    (hawaits : Awaits h.taskId task w') :
    Runs settings t h ws obs none (observeRound settings h.taskId (wid, h))
      (fun _ => Closed settings.limits h.taskId wid ws.status) w' := by
  have hentry := observeEntry_closes (t := t) hgone hreadable hawaits
  refine Safe.bind (Safe.attempt (hentry.mono fun r w' hclosed => ?_))
  cases r with
  | error e => exact hclosed
  | ok found =>
    exact closed_runs (spares_bind (publishEntry_spares _ _).ignoring fun _ => trivial) hclosed

/-- A round that cannot read its file, or count the candidates, leaves the row as it is. -/
theorem observeRound_fails (hlocal : h.host? = none)
    (hfails : (∃ e, loadStatus settings.limits ws.status = .error e) ∨ counted ≠ none)
    (hawaits : Awaits h.taskId task w) :
    Runs settings t h ws obs counted (observeRound settings h.taskId (wid, h))
      (fun _ w => w.db.task? h.taskId = some task) w := by
  refine Safe.bind (Safe.attempt (Safe.seq (and_row
    (spares_quiet (observeAndRecord_quiet settings wid h false))
    (observeAndRecord_fails hlocal hfails wid) hawaits.row) ?_ ?_))
  · rintro record w ⟨⟨e, hrecord⟩, -⟩
    cases hrecord
  · exact fun e w hboth => hboth.2

/-- An exception ends the round only. -/
theorem observeRound_returns (tid : TaskId) (entry : HandleEntry) (w : World) :
    Runs settings t h ws obs counted (observeRound settings tid entry)
      (fun r _ => ∃ n, r = .ok n) w := by
  refine Safe.bind (Safe.attempt ((any_runs _ w).mono fun r w _ => ?_))
  cases r with
  | error e => exact ⟨0, rfl⟩
  | ok found => exact Safe.bind (Safe.ignoring (any_runs _ w) fun _ _ => ⟨_, rfl⟩)

/-- The rounds before and after that of a task leave it alone. -/
theorem observeRounds_runs {P : World → Prop}
    (hround : ∀ w, Awaits tid task w →
      Runs settings t h ws obs counted (observeRound settings tid entry) (fun _ => P) w)
    (hkeeps : ∀ {p : Program Nat} {w : World}, p.All (ActSpares tid) → P w →
      Runs settings t h ws obs counted p (fun _ => P) w)
    (hbefore : ∀ e ∈ before, e.1 ≠ tid) (hafter : ∀ e ∈ after, e.1 ≠ tid)
    (hawaits : Awaits tid task w) :
    Runs settings t h ws obs counted (observeRounds settings (before ++ (tid, entry) :: after))
      (fun _ => P) w := by
  induction before generalizing w with
  | nil =>
    refine Safe.seq (hround w hawaits) (fun n w hP => ?_) fun _ _ hP => hP
    exact hkeeps (spares_bind (observeRounds_spares settings hafter) fun _ => trivial) hP
  | cons first before ih =>
    have hfirst := observeRound_spares (hbefore first List.mem_cons_self) settings first.2
    refine Safe.seq (and_awaits hfirst (observeRound_returns _ _ w) hawaits) ?_ ?_
    · rintro n w ⟨-, hawaits⟩
      have hrest := ih (fun e he => hbefore e (List.mem_cons_of_mem _ he)) hawaits
      exact Safe.seq hrest (fun _ _ hP => hP) fun _ _ hP => hP
    · rintro e w ⟨⟨n, hn⟩, -⟩
      cases hn

theorem observeRunning_runs {P : World → Prop} (hget : Dict.get? w.handles tid = some entry)
    (hround : ∀ w, Awaits tid task w →
      Runs settings t h ws obs counted (observeRound settings tid entry) (fun _ => P) w)
    (hkeeps : ∀ {p : Program Nat} {w : World}, p.All (ActSpares tid) → P w →
      Runs settings t h ws obs counted p (fun _ => P) w)
    (hawaits : Awaits tid task w) :
    Runs settings t h ws obs counted (observeRunning settings) (fun _ => P) w := by
  obtain ⟨before, after, hrows, hbefore, hafter⟩ := Dict.rows_of_get? hget
  refine Safe.bind (call_runs fun env r w' _ hx => ?_)
  cases hx
  dsimp only
  rw [hrows]
  exact observeRounds_runs hround hkeeps hbefore hafter hawaits

/-- A patrol that cannot observe an exited worker leaves its row as it is. -/
theorem observeRunning_fails (hgone : Gone settings w wid h ws obs task)
    (hfails : ¬ Readable settings.limits ws.status ∨ counted ≠ none) :
    Runs settings t h ws obs counted (observeRunning settings)
      (fun _ w => w.db.task? h.taskId = some task) w := by
  have herror : (∃ e, loadStatus settings.limits ws.status = .error e) ∨ counted ≠ none := by
    refine hfails.imp_left fun hunreadable => ?_
    cases hload : loadStatus settings.limits ws.status with
    | ok status => exact absurd (readable_iff.mpr ⟨status, hload⟩) hunreadable
    | error e => exact ⟨e, rfl⟩
  refine observeRunning_runs hgone.registered
    (fun w hawaits => observeRound_fails hgone.isLocal herror hawaits) ?_ ⟨hgone.row, hgone.free⟩
  exact fun hp hrow => (and_row hp (any_runs _ _) hrow).mono fun _ _ hboth => hboth.2

theorem exists_answer (a : Act β) (w : World) : ∃ env, Answers h ws obs counted a env w := by
  cases a with
  | candidateCount path => exact ⟨{ raises := counted }, fun _ => rfl⟩
  | store | stop => exact ⟨{}, rfl⟩
  | observe h' => exact ⟨{ observation := obs }, fun _ => ⟨rfl, rfl⟩⟩
  | readStatus path => exact ⟨{ statusFile := ws.status }, fun _ => rfl⟩
  | sessionActivity cwd uuid => exact ⟨{}, fun record hrecord => (by cases hrecord)⟩
  | _ => exact ⟨{}, trivial⟩

end Rounds

end Lemmas

open Lemmas in
/-- A patrol closes the task of a worker that has exited exactly if the status file is readable and
the candidates can be counted, or the task is stuck already and the file says so. -/
theorem patrol_closes_iff {settings : Settings} {w : World} {wid : Option WorkerId}
    {h : WorkerHandle} {ws : Workspace} {obs : Observation} {counted : Option PyErr} {task : Task}
    (hgone : Gone settings w wid h ws obs task) :
    PatrolCloses settings w wid h ws obs counted ↔
      Readable settings.limits ws.status ∧
        (counted = none ∨ task.state = .stuck ∧ SaysStuck settings.limits ws.status) := by
  constructor
  · intro hcloses
    by_cases hgood : Readable settings.limits ws.status ∧ counted = none
    · exact ⟨hgood.1, Or.inl hgood.2⟩
    have hfails : ¬ Readable settings.limits ws.status ∨ counted ≠ none := by
      by_contra hneither
      exact hgood ⟨by_contra fun h => hneither (Or.inl h), by_contra fun h => hneither (Or.inr h)⟩
    have hpatrol : ∃ envs r w', (observeRunning settings).perform (process settings) 0 envs w
        = some (r, w') ∧
        (observeRunning settings).Permitted (process settings) 0 (Answers h ws obs counted) envs w :=
      Prog.exists_perform exists_answer _ _
    obtain ⟨envs, r, w', hperform, hpermitted⟩ := hpatrol
    obtain ⟨row, hrow, hclosed⟩ := hcloses 0 envs r w' hperform hpermitted
    have hkept := Alone.of_perform (observeRunning_fails hgone hfails) hpermitted hperform
    obtain rfl : task = row := Option.some.inj (hkept.symm.trans hrow)
    rcases hclosed with ⟨hfinal, -⟩ | hstuck
    · rcases hgone.live with hlive | hlive <;> rw [hlive] at hfinal <;> simp at hfinal
    · obtain ⟨status, -, hload, -⟩ := hstuck.2
      exact ⟨readable_iff.mpr ⟨status, hload⟩, Or.inr hstuck⟩
  · rintro ⟨hreadable, hcounted⟩ t envs r w' hperform hpermitted
    by_cases hnone : counted = none
    · subst hnone
      have hruns : Runs settings t h ws obs none (observeRunning settings)
          (fun _ => Closed settings.limits h.taskId wid ws.status) w :=
        observeRunning_runs hgone.registered
          (fun w hawaits => observeRound_closes hgone hreadable hawaits)
          (fun hp hclosed => closed_runs hp hclosed) ⟨hgone.row, hgone.free⟩
      exact Alone.of_perform hruns hpermitted hperform
    · obtain ⟨hstuck, hfile⟩ := hcounted.resolve_left hnone
      have hrow := Alone.of_perform (observeRunning_fails hgone (Or.inr hnone)) hpermitted hperform
      exact ⟨task, hrow, Or.inr ⟨hstuck, hfile⟩⟩

/-- The row of task `t`. -/
def runningT : Task := { id := "t", projectId := "p", name := "n", spec := "s", state := .running }

/-- What the shell runtime reports when the worker of task `t` has returned 0. -/
def returnedT (file : StatusFile) : Observation :=
  Shell.observe plainSurroundings.replacing { status := file } (some 0)

theorem gone_shell (file : StatusFile) : Gone {} (workerIn .running) none entryT.2
    { status := file } (returnedT file) runningT where
  registered := rfl
  row := rfl
  live := Or.inl rfl
  free := by decide
  isLocal := rfl
  reported := ⟨plainSurroundings, { returncode := some 0 }, .shell, rfl, rfl, rfl⟩
  exited := rfl

/-- A worker that has left no file. -/
theorem patrol_closes_without_file :
    PatrolCloses {} (workerIn .running) none entryT.2 {} (returnedT .missing) none :=
  (patrol_closes_iff (gone_shell .missing)).mpr ⟨trivial, Or.inl rfl⟩

/-- A shell worker writes the byte `0xFF` and exits with 0: its task stays `RUNNING`. -/
theorem undecodable_byte_pins :
    Gone {} (workerIn .running) none entryT.2 { status := .content [0xFF] }
      (returnedT (.content [0xFF])) runningT ∧
    ¬ PatrolCloses {} (workerIn .running) none entryT.2 { status := .content [0xFF] }
      (returnedT (.content [0xFF])) none := by
  refine ⟨gone_shell _, fun hcloses => ?_⟩
  obtain ⟨row, hrow, hclosed⟩ := hcloses 0 [{}, { statusFile := .content [0xFF] }] (.ok 0)
    (workerIn .running) rfl ⟨trivial, fun _ => rfl, trivial⟩
  have hrunning : runningT = row := Option.some.inj ((gone_shell .missing).row.symm.trans hrow)
  rw [← hrunning] at hclosed
  rcases hclosed with ⟨hfinal, -⟩ | ⟨hstuck, -⟩
  · exact absurd hfinal (by decide)
  · exact absurd hstuck (by decide)

end Exited

end Flotilla
