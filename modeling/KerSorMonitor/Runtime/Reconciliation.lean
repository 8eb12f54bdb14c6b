import KerSorMonitor.Flotilla.Effects
import KerSorMonitor.Flotilla.Routes
import KerSorMonitor.Lib.Sequential
import KerSorMonitor.Runtime.Tmux

/-!
# Reconciliation at the start (`flotilla/app.py`, `_reconcile_running`)

A process that starts has no handles. What becomes of the tasks with a worker depends on what the
probe of their panes answers, on their hosts, and on whether the row of their worker is there.

Results:
1. `retire_lost_runs`: a retirement as `LOST`, when nothing else runs.
2. `reconcile_exact`: which tasks are reattached, which are left alone, and which are lost.
-/

namespace Flotilla

open Keyed Threads
open Prog (call)

/-! ## What the probe answers -/

/-- The answers of the outside: `_window_name`, and the pane of a window of a host. The pane is
`none` when the host is unreachable, and empty when there is no such window. The windows of two
tasks have different names, so that a stop changes no other answer. -/
structure PaneProbe where
  window : TaskId → String
  pane : Option String → String → Option String

namespace PaneProbe

/-- The window names of a task, in the order in which they are probed. -/
def names (probe : PaneProbe) (tid : TaskId) : List String := windowNames (probe.window tid) tid

/-- The first of the names that does not answer that there is no window. -/
def decisive (probe : PaneProbe) (host : Option String) (tid : TaskId) : Option String :=
  (probe.names tid).find? fun name => probe.pane host name ≠ some ""

/-- A pane is found under one of the names. -/
def Finds (probe : PaneProbe) (host : Option String) (tid : TaskId) (window pane : String) : Prop :=
  probe.decisive host tid = some window ∧ probe.pane host window = some pane

/-- The host is unreachable for a probe that decides. -/
def Fails (probe : PaneProbe) (host : Option String) (tid : TaskId) : Prop :=
  ∃ window, probe.decisive host tid = some window ∧ probe.pane host window = none

/-- The window of the target `session:window`. -/
def targetWindow (session target : String) : String :=
  String.ofList (target.toList.drop (session ++ ":").toList.length)

theorem targetWindow_target (session window : String) :
    targetWindow session (session ++ ":" ++ window) = window := by
  simp [targetWindow]

/-- What the environment may answer. `_ssh` raises for an alias that it does not accept. -/
def Answers (settings : Settings) (probe : PaneProbe) : {β : Type} → Act β → Env → World → Prop
  | _, .windowName tid, env, _ => env.text = some (probe.window tid)
  | _, .findPane host target, env, _ =>
    (host.all Tmux.isAlias = true → env.raises = none) ∧
    env.text = probe.pane host (targetWindow settings.tmuxSession target)
  | _, _, _, _ => True

instance {settings : Settings} {probe : PaneProbe} {β : Type} (a : Act β) (env : Env) (w : World) :
    Decidable (probe.Answers settings a env w) :=
  match a with
  | .windowName _ => inferInstanceAs (Decidable (_ = _))
  | .findPane _ _ => inferInstanceAs (Decidable ((_ = true → _ = none) ∧ _ = _))
  | .store _ | .now | .newWorkerId _ | .runningHandle _ | .handlesSnapshot | .register _ _ _
  | .unregister _ _ | .beginRetire _ | .endRetire _ | .acquire _ _ _ | .releaseId _ _ _
  | .asCompleted _ | .stop _ _ | .observe _ | .paste _ _ | .pauseWorker _ | .resumeWorker _
  | .mineSessionUuid _ | .sessionActivity _ _ | .readStatus _ | .candidateCount _ | .isDir _
  | .makeDirs _ | .evaluate _ _ _ | .dumpsLength _ | .publish _ => inferInstanceAs (Decidable True)

end PaneProbe

/-! ## What becomes of a task -/

/-- The host that a task is to run on, if it is configured; `some none` is this one. -/
def targetHost? (db : Db) (t : Task) : Option (Option String) :=
  match nonEmpty? t.targetHost with
  | none => some none
  | some hid => (db.host.get? hid).map fun row => some row.sshAlias

/-- The task runs in a tmux window, in a workspace of a host that is configured. -/
def RunsOn (db : Db) (t : Task) (workspace : String) (host : Option String) : Prop :=
  t.runtime = "claude_tmux" ∧ nonEmpty? t.workspacePath = some workspace ∧
    targetHost? db t = some host

/-- The task has an active worker, and a pane under one of its names. -/
def Attachable (settings : Settings) (probe : PaneProbe) (db : Db) (t : Task) (wid : WorkerId)
    (h : WorkerHandle) : Prop :=
  ∃ workspace host window pane, RunsOn db t workspace host ∧
    probe.Finds host t.id window pane ∧ Store.activeWorkerId t.id db = some wid ∧
    h = ⟨t.id, workspace, "claude_tmux",
      .tmux host settings.tmuxSession window pane none workspace, wid⟩

/-- The task had a worker, which is reattached. -/
def Attached (settings : Settings) (probe : PaneProbe) (db : Db) (t : Task) : Prop :=
  t.state.isLive = true ∧ ∃ wid h, Attachable settings probe db t wid h

/-- Nothing is known of the worker: its host is unreachable. -/
def Undecided (probe : PaneProbe) (db : Db) (t : Task) : Prop :=
  ∃ workspace host, RunsOn db t workspace host ∧ probe.Fails host t.id

/-- What the control plane holds of a task. -/
@[ext] structure Berth where
  row : Option Task
  workers : List Worker
  handle : Option HandleEntry

/-- What it holds of task `tid`. -/
def World.berth (w : World) (tid : TaskId) : Berth where
  row := w.db.task? tid
  workers := w.db.worker.rows.filter fun wk => wk.taskId = tid
  handle := Dict.get? w.handles tid

/-- What a process that starts on the database holds of it: no handle. -/
def Db.berth (db : Db) (tid : TaskId) : Berth := (World.boot db).berth tid

/-- The most recent worker of these that has not ended. -/
def Berth.activeWorkerId (b : Berth) : Option WorkerId :=
  ((b.workers.filter Worker.isActive).insertionSort fun a b => b.startedAt ≤ a.startedAt).head?.map
    Worker.id

/-- What the reconciliation makes of a task that was running, paused or stuck. -/
inductive Settled (settings : Settings) (probe : PaneProbe) (db : Db) (t : Task) :
    Berth → Berth → Prop
  | attached {b : Berth} {wid : WorkerId} {h : WorkerHandle} :
      Attachable settings probe db t wid h →
      Settled settings probe db t b { b with handle := some (some wid, h) }
  | undecided {b : Berth} : Undecided probe db t → Settled settings probe db t b b
  | lost {b b' : Berth} {now : String} : (∀ wid h, ¬ Attachable settings probe db t wid h) →
      ¬ Undecided probe db t → b'.row = some { t with state := .lost, updatedAt := now } →
      (∀ wid, b.activeWorkerId = some wid →
        ∃ wk ∈ b'.workers, wk.id = wid ∧ wk.isActive = false) →
      b'.handle = none → Settled settings probe db t b b'

namespace ReconciliationLemmas

variable {settings : Settings} {probe : PaneProbe} {α : Type} {w w' w'' : World} {tid : TaskId}

theorem activeWorkerId_berth (w : World) (tid : TaskId) :
    (w.berth tid).activeWorkerId = Store.activeWorkerId tid w.db := by
  unfold Berth.activeWorkerId World.berth Store.activeWorkerId
  rw [List.filter_filter]
  congr 4
  funext wk
  exact Bool.and_comm _ _

/-- A reconciliation that runs before anything else. -/
abbrev Runs (settings : Settings) (probe : PaneProbe) (p : Program α)
    (Q : Except PyErr α → World → Prop) (w : World) : Prop :=
  Safe (.alone (process settings) 0 (probe.Answers settings)) 0 p Q w

/-- The program returns what satisfies `Q`, or raises what SQLite raised. -/
def Ends (Q : α → World → Prop) : Except PyErr α → World → Prop
  | .ok a, w => Q a w
  | .error e, _ => e.cls = .operationalError

/-! ## What is left alone -/

/-- What the rounds have in common is as before, and so is what is held of the other tasks. -/
structure Beyond (tid : TaskId) (w w' : World) : Prop where
  berth : ∀ tid', tid' ≠ tid → w'.berth tid' = w.berth tid'
  host : w'.db.host = w.db.host

theorem Beyond.refl (tid : TaskId) (w : World) : Beyond tid w w := ⟨fun _ _ => rfl, rfl⟩

theorem Beyond.trans (h : Beyond tid w w') (h' : Beyond tid w' w'') : Beyond tid w w'' :=
  ⟨fun tid' hne => (h'.berth tid' hne).trans (h.berth tid' hne), h'.host.trans h.host⟩

/-- What is held of every task is as before. -/
structure Aside (w w' : World) : Prop where
  berth : ∀ tid, w'.berth tid = w.berth tid
  host : w'.db.host = w.db.host
  retiring : w'.retiring = w.retiring

theorem Aside.refl (w : World) : Aside w w := ⟨fun _ => rfl, rfl, rfl⟩

theorem Aside.trans (h : Aside w w') (h' : Aside w' w'') : Aside w w'' :=
  ⟨fun tid => (h'.berth tid).trans (h.berth tid), h'.host.trans h.host,
    h'.retiring.trans h.retiring⟩

theorem Aside.beyond (h : Aside w w') (tid : TaskId) : Beyond tid w w' :=
  ⟨fun tid' _ => h.berth tid', h.host⟩

/-- The actions that leave what is held of the tasks alone. -/
def Idle : {β : Type} → Act β → Prop
  | _, .store (.appendEvent _) => True
  | _, .now => True
  | _, .stop _ _ => True
  | _, .releaseId _ _ _ => True
  | _, _ => False

theorem insertEvent_host {db db' : Db} {e : Event} (h : db.insertEvent e = .ok db') :
    db'.host = db.host := by
  unfold Db.insertEvent at h
  split at h
  · cases h
    rfl
  · cases h

theorem connection_host {body : Db → Except PyErr α × Db} {db db' : Db} {r : Except PyErr α}
    (hbody : ∀ a db', body db = (.ok a, db') → db'.host = db.host)
    (h : connection body db = (r, db')) : db'.host = db.host := by
  unfold connection at h
  rcases hb : body db with ⟨r₁, db₁⟩
  rw [hb] at h
  cases r₁ with
  | error e =>
    cases h
    rfl
  | ok a =>
    cases h
    exact hbody a _ hb

theorem appendEvent_host {e : Event} {db db' : Db} {r : Except PyErr Unit}
    (h : Store.appendEvent settings e db = (r, db')) : db'.host = db.host := by
  refine connection_host (fun a db₂ hb => ?_) h
  cases hins : db.insertEvent e with
  | error err =>
    simp only [hins] at hb
    cases hb
  | ok db₁ =>
    simp only [hins] at hb
    have hhost := insertEvent_host hins
    split at hb
    · split at hb <;> cases hb <;> exact hhost
    · cases hb
      exact hhost

theorem finishWorker_host {now : String} {wid : Option WorkerId} {terminal : String} {db db' : Db}
    {r : Except PyErr Bool} (h : Store.finishWorker now tid wid terminal none db = (r, db')) :
    db'.host = db.host := by
  refine connection_host (fun a db₂ hb => ?_) h
  split at hb
  · cases hb
    rfl
  · split at hb
    · cases hb
    · cases hb
      cases wid <;> rfl

theorem aside_of_idle {β : Type} {a : Act β} (ha : Idle a) {env : Env} {r : Except PyErr β}
    (h : World.exec settings env a w = (r, w')) : Aside w w' := by
  obtain rfl : (World.exec settings env a w).2 = w' := congrArg Prod.snd h
  cases a with
  | store q =>
    cases q with
    | appendEvent e =>
      cases hraise : env.raises with
      | some err =>
        rw [Effects.exec_store_raised _ hraise]
        exact Aside.refl w
      | none =>
        rw [Effects.exec_store_done _ hraise]
        refine ⟨fun tid => ?_, appendEvent_host rfl, rfl⟩
        have hcases := Store.StoreLemmas.appendEvent_cases
          (rfl : Store.appendEvent settings e w.db = (_, (Store.appendEvent settings e w.db).2))
        rcases hcases with ⟨heq, -⟩ | ⟨-, -, ht, hw, -⟩
        · exact congrArg (fun db => World.berth { w with db := db } tid) heq
        · exact Berth.ext (congrArg (Table.get? · tid) ht)
            (congrArg (fun t => t.rows.filter fun wk => wk.taskId = tid) hw) rfl
    | _ => exact ha.elim
  | now => exact Aside.refl w
  | stop h caller =>
    simp only [World.exec, World.stop, World.stopWorker]
    split
    · exact ⟨fun _ => rfl, rfl, rfl⟩
    · split <;> exact ⟨fun _ => rfl, rfl, rfl⟩
  | releaseId kind resourceId wid =>
    simp only [World.exec, World.releaseId]
    split
    · split
      · exact Aside.refl w
      · rw [Effects.outside_world]
        exact ⟨fun _ => rfl, rfl, rfl⟩
    · exact ⟨fun _ => rfl, rfl, rfl⟩
  | _ => exact ha.elim

/-! ## Programs -/

theorem call_runs {a : Act α} {Q : Except PyErr α → World → Prop}
    (h : ∀ env r w', probe.Answers settings a env w → World.exec settings env a w = (r, w') →
      Q r w') : Runs settings probe (call a) Q w := Alone.call h

theorem idle_runs {p : Program α} (hp : p.All Idle) (haside : Aside w w') :
    Runs settings probe p (fun _ => Aside w) w' := by
  refine Alone.of_all (fun a ha env w₁ r w₂ _ h hexec => ?_) hp haside
  exact h.trans (aside_of_idle ha hexec)

theorem recordEvent_idle (tid : TaskId) (type : String) (payload : JsonObj) :
    (recordEvent tid type payload).All Idle :=
  Prog.All.bind (Prog.All.bind (Prog.all_call.mpr trivial) fun _ => trivial) fun _ =>
    Prog.all_call.mpr trivial

/-- A step whose failure is recorded, if that is possible, and ignored. -/
theorem recorded_runs {p : Program Unit} (hp : p.All Idle) (type : String)
    (payload : PyErr → JsonObj) (haside : Aside w w') :
    Runs settings probe (p.tryCatch fun exc => (recordEvent tid type (payload exc)).ignoring)
      (fun r w'' => r = .ok () ∧ Aside w w'') w' := by
  refine Safe.tryCatch ((idle_runs hp haside).mono fun r w₁ h => ?_)
  cases r with
  | ok _ => exact ⟨rfl, h⟩
  | error exc =>
    exact Safe.ignoring (idle_runs (recordEvent_idle _ _ _) h) fun w₂ h => ⟨rfl, h⟩

theorem stopForRetire_runs (wid : Option WorkerId) (stopRuntime : Bool)
    (handle : Option WorkerHandle) (haside : Aside w w') :
    Runs settings probe (stopForRetire tid wid stopRuntime handle)
      (fun r w'' => r = .ok () ∧ Aside w w'') w' := by
  unfold stopForRetire
  split
  · refine recorded_runs ?_ _ _ haside
    exact Prog.all_call.mpr trivial
  · exact ⟨rfl, haside⟩

theorem releaseForRetire_runs (task : Task) (worker : Option Worker) (haside : Aside w w') :
    Runs settings probe (releaseForRetire task tid worker)
      (fun r w'' => r = .ok () ∧ Aside w w'') w' := by
  unfold releaseForRetire
  split
  · exact ⟨rfl, haside⟩
  · split
    · refine recorded_runs ?_ _ _ haside
      exact Prog.All.bind (Prog.all_ofExcept _) fun _ => Prog.all_call.mpr trivial
    · exact ⟨rfl, haside⟩

theorem bind_ends {β : Type} {p : Program α} {f : α → Program β} {Q : α → World → Prop}
    {R : β → World → Prop} (hp : Runs settings probe p (Ends Q) w)
    (hf : ∀ a w', Q a w' → Runs settings probe (f a) (Ends R) w') :
    Runs settings probe (p >>= f) (Ends R) w := Safe.seq hp hf fun _ _ h => h

theorem read_ends {q : Transaction α} {f : Db → α}
    (hq : ∀ clock db, q.exec settings clock db = (.ok (f db), db)) :
    Runs settings probe (store q) (Ends fun a w' => a = f w.db ∧ w' = w) w := by
  refine call_runs fun env r w' _ hexec => ?_
  cases hraise : env.raises with
  | some e =>
    rw [Effects.exec_store_raised _ hraise] at hexec
    cases hexec
    exact (rfl : (⟨.operationalError, e.msg⟩ : PyErr).cls = .operationalError)
  | none =>
    rw [Effects.exec_store_done _ hraise, hq] at hexec
    cases hexec
    exact ⟨rfl, rfl⟩

theorem recordEvent_ends (type : String) (payload : JsonObj) (hrow : w.db.task.Has tid) :
    Runs settings probe (recordEvent tid type payload) (Ends fun _ w' => Aside w w') w := by
  refine Safe.bind (Safe.bind (call_runs fun env₀ r w' _ hexec => ?_))
  obtain ⟨rfl, rfl⟩ := Prod.mk.inj hexec
  refine call_runs fun env r w' _ hexec => ?_
  have hidle : Idle (.store (.appendEvent ⟨tid, type, payload, env₀.clock.now⟩)) := trivial
  have haside := aside_of_idle hidle hexec
  cases hraise : env.raises with
  | some e =>
    rw [Effects.exec_store_raised _ hraise] at hexec
    cases hexec
    exact (rfl : (⟨.operationalError, e.msg⟩ : PyErr).cls = .operationalError)
  | none =>
    rw [Effects.exec_store_done _ hraise] at hexec
    obtain ⟨rfl, -⟩ := Prod.mk.inj hexec
    have hcases := Store.StoreLemmas.appendEvent_cases (Prod.ext rfl rfl :
      Store.appendEvent settings ⟨tid, type, payload, env₀.clock.now⟩ w.db = (_, _))
    rcases hcases with ⟨-, hno, -⟩ | ⟨hok, -⟩
    · exact absurd hrow hno
    · rw [show ((Transaction.appendEvent ⟨tid, type, payload, env₀.clock.now⟩).exec settings
        env.clock w.db).1 = .ok () from hok]
      exact haside

/-! ## The retirement -/

/-- The task is lost, and its worker has ended. -/
structure Finished (t : Task) (b : Berth) (w w' : World) : Prop where
  row : ∃ now, (w'.berth t.id).row = some { t with state := .lost, updatedAt := now }
  workers : ∀ wid, b.activeWorkerId = some wid →
    ∃ wk ∈ (w'.berth t.id).workers, wk.id = wid ∧ wk.isActive = false
  beyond : Beyond t.id w w'
  retiring : w'.retiring = w.retiring

theorem mem_of_activeWorkerId {b : Berth} {wid : WorkerId} (h : b.activeWorkerId = some wid) :
    ∃ wk ∈ b.workers, wk.id = wid := by
  obtain ⟨wk, hhead, rfl⟩ := Option.map_eq_some_iff.mp h
  have hmem := (List.mem_insertionSort _).mp (List.mem_of_mem_head? hhead)
  exact ⟨wk, (List.mem_filter.mp hmem).1, rfl⟩

theorem rows_endWorkerRow (db : Db) (wid : WorkerId) (now : String) :
    (db.endWorkerRow wid now).worker.rows = db.worker.rows.map fun wk =>
      if wk.id = wid && wk.isActive then { wk with endedAt := some now } else wk := rfl

/-- The rows of the workers of the other tasks are as before. -/
theorem workers_endWorkerRow_of_ne {db : Db} {wid : WorkerId} {now : String}
    (hown : ∀ wk ∈ db.worker.rows, wk.id = wid → wk.taskId = tid) {tid' : TaskId}
    (hne : tid' ≠ tid) :
    ((db.endWorkerRow wid now).worker.rows.filter fun wk => wk.taskId = tid') =
      db.worker.rows.filter fun wk => wk.taskId = tid' := by
  have hkeep : (fun wk : Worker => decide (wk.taskId = tid')) ∘ (fun wk =>
      if wk.id = wid && wk.isActive then { wk with endedAt := some now } else wk) =
      fun wk => decide (wk.taskId = tid') := by
    funext wk
    simp only [Function.comp_apply]
    split <;> rfl
  rw [rows_endWorkerRow, List.filter_map, hkeep]
  · refine (List.map_congr_left fun wk hwk => ?_).trans (List.map_id _)
    obtain ⟨hmem, htask⟩ := List.mem_filter.mp hwk
    have hid : wk.id ≠ wid := by
      intro hid
      have htid := hown wk hmem hid
      simp only [decide_eq_true_eq] at htask
      exact hne (htask.symm.trans htid)
    simp [hid]

/-- The active worker of a task ends. -/
theorem ended_of_active {db : Db} {wid : WorkerId} {now : String} {wk : Worker}
    (hmem : wk ∈ db.worker.rows) (hid : wk.id = wid) (htask : wk.taskId = tid) :
    ∃ wk' ∈ (db.endWorkerRow wid now).worker.rows.filter fun wk => wk.taskId = tid,
      wk'.id = wid ∧ wk'.isActive = false := by
  rw [rows_endWorkerRow]
  cases hactive : wk.isActive with
  | true =>
    refine ⟨{ wk with endedAt := some now }, List.mem_filter.mpr ⟨?_, by simp [htask]⟩, hid, rfl⟩
    exact List.mem_map.mpr ⟨wk, hmem, by simp [hid, hactive]⟩
  | false =>
    refine ⟨wk, List.mem_filter.mpr ⟨?_, by simp [htask]⟩, hid, hactive⟩
    exact List.mem_map.mpr ⟨wk, hmem, by simp [hactive]⟩

theorem transition_lost {st : TaskState} (h : st.isLive = true) :
    transition st "LOST" = .ok .lost := by
  cases st <;> first | decide | cases h

theorem finishWorker_live {db : Db} {t : Task} (hrow : db.task? tid = some t)
    (hlive : t.state.isLive = true) (now : String) (wid : Option WorkerId) :
    (Store.finishWorker now tid wid "LOST" none db).1 = .ok true := by
  simp only [Store.finishWorker, connection, hrow, transition_lost hlive]

theorem finish_ends {t : Task} {b : Berth} {wid : Option WorkerId} (hb : w.berth t.id = b)
    (hrow : b.row = some t) (hlive : t.state.isLive = true) (hwid : wid = b.activeWorkerId) :
    Runs settings probe (store (.finishWorker t.id wid "LOST" none))
      (Ends fun committed w' => committed = true ∧ Finished t b w w') w := by
  subst hb
  have htask : w.db.task? t.id = some t := hrow
  refine call_runs fun env r w' _ hexec => ?_
  cases hraise : env.raises with
  | some e =>
    rw [Effects.exec_store_raised _ hraise] at hexec
    cases hexec
    exact (rfl : (⟨.operationalError, e.msg⟩ : PyErr).cls = .operationalError)
  | none =>
    rw [Effects.exec_store_done _ hraise] at hexec
    obtain ⟨rfl, rfl⟩ := Prod.mk.inj hexec
    obtain ⟨db', hexec'⟩ : ∃ db',
        Store.finishWorker env.clock.now t.id wid "LOST" none w.db = (.ok true, db') :=
      ⟨_, Prod.ext (finishWorker_live htask hlive env.clock.now wid) rfl⟩
    rw [show (Transaction.finishWorker t.id wid "LOST" none).exec settings env.clock w.db =
      (.ok true, db') from hexec']
    refine ⟨rfl, ?_⟩
    rcases Store.StoreLemmas.finishWorker_cases hexec' with
      ⟨-, ⟨⟨⟩, -⟩ | ⟨e, ⟨⟩⟩⟩ | ⟨row, st, hrow', htr, -, hworker, -, htasks⟩
    cases htask.symm.trans hrow'
    cases (transition_lost hlive).symm.trans htr
    have hown : ∀ wid', wid = some wid' →
        ∃ wk ∈ w.db.worker.rows, wk.id = wid' ∧ wk.taskId = t.id := by
      intro wid' heq
      obtain ⟨wk, hmem, hid⟩ := mem_of_activeWorkerId (hwid.symm.trans heq)
      obtain ⟨hmem, htid⟩ := List.mem_filter.mp hmem
      exact ⟨wk, hmem, hid, by simpa using htid⟩
    refine ⟨⟨env.clock.now, ?_⟩, fun wid' hactive => ?_,
      ⟨fun tid' hne => ?_, finishWorker_host hexec'⟩, rfl⟩
    · exact (htasks t.id).trans (if_pos rfl)
    · obtain ⟨wk, hmem, hid, htid⟩ := hown wid' (hwid.trans hactive)
      show ∃ wk ∈ db'.worker.rows.filter fun wk => wk.taskId = t.id, wk.id = wid' ∧ _
      rw [hworker, hwid.trans hactive]
      exact ended_of_active hmem hid htid
    · refine Berth.ext ((htasks tid').trans (if_neg hne)) ?_ rfl
      show (db'.worker.rows.filter fun wk => wk.taskId = tid') = _
      rw [hworker]
      cases hw : wid with
      | none => rfl
      | some wid' =>
        obtain ⟨wk, hmem, hid, htid⟩ := hown wid' hw
        refine workers_endWorkerRow_of_ne (fun wk' hmem' hid' => ?_) hne
        rw [Table.mem_unique hmem' hmem (hid'.trans hid.symm), htid]

theorem Finished.aside {t : Task} {b : Berth} (h : Finished t b w w') (haside : Aside w' w'') :
    Finished t b w w'' where
  row := by rw [haside.berth]; exact h.row
  workers := by rw [haside.berth]; exact h.workers
  beyond := h.beyond.trans (haside.beyond t.id)
  retiring := haside.retiring.trans h.retiring

theorem Finished.of_aside {t : Task} {b : Berth} (haside : Aside w w') (h : Finished t b w' w'') :
    Finished t b w w'' where
  row := h.row
  workers := h.workers
  beyond := (haside.beyond t.id).trans h.beyond
  retiring := h.retiring.trans haside.retiring

/-- The task is lost, its worker has ended and its handle is dropped. -/
structure Dropped (t : Task) (b : Berth) (w w' : World) : Prop extends Finished t b w w' where
  handle : (w'.berth t.id).handle = none

theorem berth_unregister (w : World) (tid tid' : TaskId) :
    ({ w with handles := Dict.pop w.handles tid } : World).berth tid' =
      if tid' = tid then { w.berth tid' with handle := none } else w.berth tid' := by
  split
  · next heq => exact Berth.ext rfl rfl ((Dict.get?_pop _ _ _).trans (if_pos heq))
  · next hne => exact Berth.ext rfl rfl ((Dict.get?_pop _ _ _).trans (if_neg hne))

theorem berth_register (w : World) (tid tid' : TaskId) (entry : HandleEntry) :
    ({ w with handles := Dict.set w.handles tid entry } : World).berth tid' =
      if tid' = tid then { w.berth tid' with handle := some entry } else w.berth tid' := by
  split
  · next heq => exact Berth.ext rfl rfl ((Dict.get?_set _ _ _ _).trans (if_pos heq))
  · next hne => exact Berth.ext rfl rfl ((Dict.get?_set _ _ _ _).trans (if_neg hne))

theorem unregister_runs {t : Task} {b : Berth} (caller : Caller) (h : Finished t b w w') :
    Runs settings probe (call (.unregister t.id caller))
      (fun r w'' => r = .ok () ∧ Dropped t b w w'') w' := by
  refine call_runs fun env r w'' _ hexec => ?_
  obtain ⟨rfl, rfl⟩ := Prod.mk.inj hexec
  refine ⟨rfl, ⟨h.row, h.workers, ⟨fun tid' hne => ?_, h.beyond.host⟩, h.retiring⟩, ?_⟩
  · rw [berth_unregister, if_neg hne]
    exact h.beyond.berth tid' hne
  · rw [berth_unregister, if_pos rfl]

theorem getWorker?_ends (wid : Option WorkerId) :
    Runs settings probe (getWorker? wid) (Ends fun _ w' => w' = w) w := by
  cases wid with
  | none => exact (rfl : w = w)
  | some wid =>
    refine (read_ends fun _ _ => rfl).mono fun r w' h => ?_
    cases r with
    | ok _ => exact h.2
    | error _ => exact h

theorem commitRetire_ends {t : Task} {b : Berth} {wid : Option WorkerId} (hb : w.berth t.id = b)
    (hrow : b.row = some t) (hlive : t.state.isLive = true) (hwid : wid = b.activeWorkerId)
    (worker : Option Worker) (handle : Option WorkerHandle) :
    Runs settings probe (commitRetire t t.id wid worker (some "LOST") handle)
      (Ends fun state w' => state = some "LOST" ∧ Dropped t b w w') w := by
  have hopen : t.state.isTerminal = false := by
    cases hst : t.state <;> rw [hst] at hlive <;> first | rfl | cases hlive
  have hgate : gateTerminal t (some "LOST") handle = .pure (some "LOST", none) := by
    unfold gateTerminal
    rw [hopen, if_neg (by decide), if_neg (by decide)]
    rfl
  unfold commitRetire
  rw [hgate, Prog.pure_bind']
  refine bind_ends (finish_ends hb hrow hlive hwid) ?_
  rintro _ w₁ ⟨rfl, hfinished⟩
  refine Safe.seq (releaseForRetire_runs t worker (Aside.refl w₁)) ?_ ?_
  · rintro _ w₂ ⟨-, haside⟩
    refine Safe.seq (unregister_runs _ (hfinished.aside haside)) ?_ ?_
    · rintro _ w₃ ⟨-, hdropped⟩
      refine ⟨?_, hdropped⟩
      rw [hopen]
      rfl
    · rintro e w₃ ⟨⟨⟩, -⟩
  · rintro e w₂ ⟨⟨⟩, -⟩

theorem Dropped.aside {t : Task} {b : Berth} (h : Dropped t b w w') (haside : Aside w' w'') :
    Dropped t b w w'' :=
  ⟨h.toFinished.aside haside, by rw [haside.berth]; exact h.handle⟩

theorem Dropped.of_aside {t : Task} {b : Berth} (haside : Aside w w') (h : Dropped t b w' w'') :
    Dropped t b w w'' := ⟨h.toFinished.of_aside haside, h.handle⟩

theorem retireBody_ends {t : Task} {b : Berth} {wid : Option WorkerId} (hb : w.berth t.id = b)
    (hrow : b.row = some t) (hlive : t.state.isLive = true) (hwid : wid = b.activeWorkerId)
    (stopRuntime : Bool) (handle : Option WorkerHandle) :
    Runs settings probe (retireBody t.id wid (some "LOST") stopRuntime handle)
      (Ends fun state w' => state = some "LOST" ∧ Dropped t b w w') w := by
  have hopen : t.state.isTerminal = false := by
    cases hst : t.state <;> rw [hst] at hlive <;> first | rfl | cases hlive
  refine bind_ends (getWorker?_ends wid) ?_
  rintro worker _ rfl
  refine bind_ends (read_ends fun _ _ => rfl) ?_
  rintro task w₁ ⟨htask, rfl⟩
  obtain rfl : task = some t := htask.trans (by rw [← hrow, ← hb]; rfl)
  dsimp only
  rw [hopen, Bool.false_and, if_neg (by decide)]
  refine Safe.seq (stopForRetire_runs wid stopRuntime handle (Aside.refl w₁)) ?_ ?_
  · rintro _ w₂ ⟨-, haside⟩
    refine (commitRetire_ends ((haside.berth t.id).trans hb) hrow hlive hwid worker handle).mono
      fun r w₃ h => ?_
    cases r with
    | ok state => exact ⟨h.1, h.2.of_aside haside⟩
    | error e => exact h
  · rintro e w₂ ⟨⟨⟩, -⟩

/-- A retirement as `LOST` of a task with a worker, when nothing else runs. -/
theorem retire_lost_runs {t : Task} {b : Berth} {wid : Option WorkerId} (hb : w.berth t.id = b)
    (hrow : b.row = some t) (hlive : t.state.isLive = true) (hwid : wid = b.activeWorkerId)
    (hretiring : w.retiring = []) (stopRuntime : Bool) :
    Runs settings probe (retire t.id wid (some "LOST") stopRuntime)
      (Ends fun state w' => state = some "LOST" ∧ Dropped t b w w') w := by
  unfold retire
  rw [if_neg (by decide)]
  refine Safe.bind (call_runs fun env r w₁ _ hexec => ?_)
  have hbegin : World.exec settings env (.beginRetire t.id) w =
      (.ok (some ((Dict.get? w.handles t.id).map Prod.snd)), { w with retiring := [t.id] }) := by
    simp only [World.exec, hretiring]
    rfl
  rw [hbegin] at hexec
  obtain ⟨rfl, rfl⟩ := Prod.mk.inj hexec
  have hb' : ({ w with retiring := [t.id] } : World).berth t.id = b := hb
  refine Safe.tryFinally ((retireBody_ends hb' hrow hlive hwid stopRuntime _).mono
    fun r w₂ h => ?_)
  refine call_runs fun env r' w₃ _ hexec => ?_
  obtain ⟨rfl, rfl⟩ := Prod.mk.inj hexec
  cases r with
  | error e => exact h
  | ok state =>
    obtain ⟨hstate, hdropped⟩ := h
    refine ⟨hstate, ⟨hdropped.row, hdropped.workers, ⟨hdropped.beyond.berth, hdropped.beyond.host⟩,
      ?_⟩, hdropped.handle⟩
    show w₂.retiring.filter (· ≠ t.id) = w.retiring
    rw [hdropped.retiring, hretiring]
    simp

theorem markLost_ends {t : Task} {b : Berth} {wid : Option WorkerId} (hb : w.berth t.id = b)
    (hrow : b.row = some t) (hlive : t.state.isLive = true) (hwid : wid = b.activeWorkerId)
    (hretiring : w.retiring = []) (reason : String) (stopRuntime : Bool) :
    Runs settings probe (markLost t.id wid reason stopRuntime)
      (Ends fun _ w' => Dropped t b w w') w := by
  refine bind_ends (retire_lost_runs hb hrow hlive hwid hretiring stopRuntime) ?_
  rintro _ w₁ ⟨rfl, hdropped⟩
  have hhas : w₁.db.task.Has t.id := by
    obtain ⟨now, hrow⟩ := hdropped.row
    exact Table.has_iff_isSome.mpr (by rw [show w₁.db.task.get? t.id = _ from hrow]; rfl)
  refine (recordEvent_ends "reconcile_lost" _ hhas).mono fun r w₂ h => ?_
  cases r with
  | ok _ => exact hdropped.aside h
  | error e => exact h

/-! ## One round -/

/-- What the probes of the names of a task say. -/
def probed (probe : PaneProbe) (host : Option String) (names : List String) :
    Option (String × String) :=
  (names.find? fun name => probe.pane host name ≠ some "").elim (some ("", ""))
    fun window => (probe.pane host window).map fun pane => (window, pane)

theorem findWindowAmong_runs {host : Option String}
    (hhost : host.all Tmux.isAlias = true) (names : List String) :
    Runs settings probe (findWindowAmong settings host names)
      (fun r w' => r = .ok (probed probe host names) ∧ w' = w) w := by
  induction names with
  | nil => exact ⟨rfl, rfl⟩
  | cons window names ih =>
    refine Safe.bind (call_runs fun env r w' hanswer hexec => ?_)
    obtain ⟨hraise, htext⟩ := hanswer
    have hfind : World.exec settings env
        (.findPane host (settings.tmuxSession ++ ":" ++ window)) w = (.ok env.text, w) := by
      simp only [World.exec, Env.outside, hraise hhost]
    rw [hfind] at hexec
    obtain ⟨rfl, rfl⟩ := Prod.mk.inj hexec
    rw [htext, PaneProbe.targetWindow_target]
    cases hanswer : probe.pane host window with
    | none =>
      refine ⟨?_, rfl⟩
      simp [probed, hanswer]
    | some pane =>
      dsimp only
      split
      · next hne =>
        refine ⟨?_, rfl⟩
        simp [probed, hanswer, hne]
      · next heq =>
        have hskip : probed probe host (window :: names) = probed probe host names := by
          simp only [ne_eq, not_not] at heq
          simp [probed, hanswer, heq]
        rw [hskip]
        exact ih

theorem findWindow_runs {host : Option String}
    (hhost : host.all Tmux.isAlias = true) (tid : TaskId) :
    Runs settings probe (findWindow settings tid host)
      (fun r w' => r = .ok (probed probe host (probe.names tid)) ∧ w' = w) w := by
  refine Safe.bind (call_runs fun env r w' hanswer hexec => ?_)
  have htext : env.text = some (probe.window tid) := hanswer
  obtain ⟨rfl, rfl⟩ := Prod.mk.inj hexec
  rw [htext]
  exact findWindowAmong_runs hhost _

theorem reconcileHost_ends (t : Task) :
    Runs settings probe (reconcileHost t) (Ends fun host w' => host = targetHost? w.db t ∧ w' = w)
      w := by
  unfold reconcileHost targetHost?
  cases nonEmpty? t.targetHost with
  | none => exact ⟨rfl, rfl⟩
  | some hid =>
    refine bind_ends (read_ends fun _ _ => rfl) ?_
    rintro host _ ⟨rfl, rfl⟩
    exact ⟨rfl, rfl⟩

open Classical in
/-- What a round does: the count, and what is held of the tasks. -/
structure Round (settings : Settings) (probe : PaneProbe) (db : Db) (t : Task) (b : Berth)
    (w : World) (n : Nat) (w' : World) : Prop where
  settled : t.state.isLive = true → Settled settings probe db t b (w'.berth t.id)
  kept : t.state.isLive = false → w'.berth t.id = b
  count : n = if Attached settings probe db t then 1 else 0
  beyond : Beyond t.id w w'
  retiring : w'.retiring = []

/-- A round that reattaches nothing. -/
theorem round_zero {db : Db} {t : Task} {b : Berth}
    (hnot : ¬ Attached settings probe db t)
    (hsettled : t.state.isLive = true → Settled settings probe db t b (w'.berth t.id))
    (hkept : t.state.isLive = false → w'.berth t.id = b) (hbeyond : Beyond t.id w w')
    (hretiring : w'.retiring = []) : Round settings probe db t b w 0 w' :=
  ⟨hsettled, hkept, (if_neg hnot).symm, hbeyond, hretiring⟩

section Round

variable {db : Db} {t : Task} {b : Berth}

/-- A round that finds the worker gone. -/
theorem lost_ends {wid : Option WorkerId} (hb : w.berth t.id = b) (hrow : b.row = some t)
    (hlive : t.state.isLive = true) (hwid : wid = b.activeWorkerId) (hretiring : w.retiring = [])
    (hno : ∀ wid h, ¬ Attachable settings probe db t wid h) (hdecided : ¬ Undecided probe db t)
    (reason : String) (stopRuntime : Bool) :
    Runs settings probe (markLost t.id wid reason stopRuntime >>= fun _ => pure 0)
      (Ends (Round settings probe db t b w)) w := by
  refine bind_ends (markLost_ends hb hrow hlive hwid hretiring reason stopRuntime) ?_
  rintro _ w' hdropped
  obtain ⟨now, hlost⟩ := hdropped.row
  refine round_zero ?_ (fun _ => ?_) (fun hdead => ?_) hdropped.beyond
    (hdropped.retiring.trans hretiring)
  · rintro ⟨-, wid', h, hattach⟩
    exact hno wid' h hattach
  · exact .lost hno hdecided hlost hdropped.workers hdropped.handle
  · rw [hlive] at hdead
    cases hdead

theorem alias_of_targetHost (haliases : ∀ row ∈ db.host.rows, Tmux.isAlias row.sshAlias = true)
    {host : Option String} (h : targetHost? db t = some host) : host.all Tmux.isAlias = true := by
  unfold targetHost? at h
  cases htarget : nonEmpty? t.targetHost with
  | none =>
    rw [htarget] at h
    cases h
    rfl
  | some hid =>
    rw [htarget] at h
    obtain ⟨row, hrow, heq⟩ := Option.map_eq_some_iff.mp h
    cases heq
    exact haliases row (Table.get?_eq_some_iff.mp hrow).1

theorem runsOn_unique {workspace workspace' : String} {host host' : Option String}
    (h : RunsOn db t workspace host) (h' : RunsOn db t workspace' host') :
    workspace' = workspace ∧ host' = host := by
  obtain ⟨-, hworkspace, hhost⟩ := h
  obtain ⟨-, hworkspace', hhost'⟩ := h'
  exact ⟨Option.some.inj (hworkspace'.symm.trans hworkspace),
    Option.some.inj (hhost'.symm.trans hhost)⟩

/-- What follows the probes of a round. -/
theorem reattach_ends {workspace : String} {host : Option String} {wid : Option WorkerId}
    (hb : w.berth t.id = b) (hrow : b.row = some t) (hlive : t.state.isLive = true)
    (hwid : wid = b.activeWorkerId) (hactive : b.activeWorkerId = Store.activeWorkerId t.id db)
    (hretiring : w.retiring = []) (hruns : RunsOn db t workspace host) :
    Runs settings probe (reattach settings t workspace host wid
      (probed probe host (probe.names t.id))) (Ends (Round settings probe db t b w)) w := by
  have hnone : (∀ window pane, ¬ probe.Finds host t.id window pane) →
      ∀ wid h, ¬ Attachable settings probe db t wid h := by
    rintro hno wid h ⟨workspace', host', window, pane, hruns', hfinds, -⟩
    obtain ⟨rfl, rfl⟩ := runsOn_unique hruns hruns'
    exact hno window pane hfinds
  have hdecided : (∀ window, probe.decisive host t.id = some window →
      probe.pane host window ≠ none) → ¬ Undecided probe db t := by
    rintro hyes ⟨workspace', host', hruns', window, hdec, hfail⟩
    obtain ⟨rfl, rfl⟩ := runsOn_unique hruns hruns'
    exact hyes window hdec hfail
  cases hdec : probe.decisive host t.id with
  | none =>
    have hprobed : probed probe host (probe.names t.id) = some ("", "") := by
      unfold probed
      rw [show (probe.names t.id).find? _ = none from hdec]
      rfl
    rw [hprobed]
    unfold reattach
    dsimp only
    rw [if_pos rfl]
    refine lost_ends hb hrow hlive hwid hretiring (hnone ?_) (hdecided ?_) _ false
    · rintro window pane ⟨hsome, -⟩
      rw [hdec] at hsome
      cases hsome
    · intro window hsome
      rw [hdec] at hsome
      cases hsome
  | some window =>
    have hprobed : probed probe host (probe.names t.id) =
        (probe.pane host window).map fun pane => (window, pane) := by
      unfold probed
      rw [show (probe.names t.id).find? _ = some window from hdec]
      rfl
    rw [hprobed]
    cases hpane : probe.pane host window with
    | none =>
      refine round_zero ?_ (fun _ => ?_) (fun _ => hb) (Beyond.refl t.id w) hretiring
      · rintro ⟨-, wid', h, hattach⟩
        refine hnone (fun window' pane' hfinds => ?_) wid' h hattach
        cases hdec.symm.trans hfinds.1
        cases hpane.symm.trans hfinds.2
      · rw [hb]
        exact .undecided ⟨workspace, host, hruns, window, hdec, hpane⟩
    | some pane =>
      have hne : pane ≠ "" := by
        have hdecides := List.find?_some hdec
        rw [hpane] at hdecides
        simpa using hdecides
      have hknown : ¬ Undecided probe db t := by
        refine hdecided fun window' hsome => ?_
        cases hdec.symm.trans hsome
        rw [hpane]
        exact fun h => by cases h
      unfold reattach
      dsimp only [Option.map_some]
      rw [if_neg hne]
      refine Safe.bind (call_runs fun env r w₁ _ hexec => ?_)
      obtain ⟨rfl, rfl⟩ := Prod.mk.inj hexec
      cases hw : wid with
      | none =>
        subst hw
        have hno : ∀ wid h, ¬ Attachable settings probe db t wid h := by
          rintro wid h ⟨-, -, -, -, -, -, hsome, -⟩
          cases (hwid.trans hactive).trans hsome
        set entry : HandleEntry := (none, ⟨t.id, workspace, "claude_tmux",
          .tmux host settings.tmuxSession window pane none workspace, ⟨t.id, 0⟩⟩)
        have hb' : ({ w with handles := Dict.set w.handles t.id entry } : World).berth t.id =
            { b with handle := some entry } := by
          rw [berth_register, if_pos rfl, hb]
        refine bind_ends (markLost_ends hb' hrow hlive hwid hretiring _ true) ?_
        rintro _ w' hdropped
        obtain ⟨now, hlost⟩ := hdropped.row
        refine round_zero ?_ (fun _ => ?_) (fun hdead => ?_) ⟨fun tid' hne => ?_, ?_⟩
          (hdropped.retiring.trans hretiring)
        · rintro ⟨-, wid', h, hattach⟩
          exact hno wid' h hattach
        · refine .lost hno hknown hlost (fun wid' hsome => ?_) hdropped.handle
          cases hwid.trans hsome
        · rw [hlive] at hdead
          cases hdead
        · rw [hdropped.beyond.berth tid' hne, berth_register, if_neg hne]
        · exact hdropped.beyond.host
      | some wid =>
        subst hw
        have hattach : Attachable settings probe db t wid _ :=
          ⟨workspace, host, window, pane, hruns, ⟨hdec, hpane⟩, hactive.symm.trans hwid.symm, rfl⟩
        refine ⟨fun _ => ?_, fun hdead => ?_, (if_pos ⟨hlive, wid, _, hattach⟩).symm,
          ⟨fun tid' hne => ?_, rfl⟩, hretiring⟩
        · rw [berth_register, if_pos rfl, hb]
          exact .attached hattach
        · rw [hlive] at hdead
          cases hdead
        · rw [berth_register, if_neg hne]

theorem reconcileTask_ends (hb : w.berth t.id = b) (hrow : b.row = some t)
    (hretiring : w.retiring = []) (hhost : w.db.host = db.host)
    (hactive : b.activeWorkerId = Store.activeWorkerId t.id db)
    (haliases : ∀ row ∈ db.host.rows, Tmux.isAlias row.sshAlias = true) :
    Runs settings probe (reconcileTask settings t) (Ends (Round settings probe db t b w)) w := by
  unfold reconcileTask
  cases hlive : t.state.isLive with
  | false =>
    rw [if_pos (by decide)]
    exact round_zero (fun h => by cases hlive.symm.trans h.1)
      (fun h => by cases hlive.symm.trans h) (fun _ => hb) (Beyond.refl t.id w) hretiring
  | true =>
    rw [if_neg (by decide)]
    refine bind_ends (read_ends fun _ _ => rfl) ?_
    rintro wid w ⟨hread, rfl⟩
    have hwid : wid = b.activeWorkerId := by rw [hread, ← hb, activeWorkerId_berth]
    have hlost : (∀ workspace host, ¬ RunsOn db t workspace host) → ∀ reason,
        Runs settings probe (markLost t.id wid reason false >>= fun _ => pure 0)
          (Ends (Round settings probe db t b w)) w := by
      intro hnot reason
      refine lost_ends hb hrow hlive hwid hretiring ?_ ?_ reason false
      · rintro wid h ⟨workspace, host, window, pane, hruns, -⟩
        exact hnot workspace host hruns
      · rintro ⟨workspace, host, hruns, -⟩
        exact hnot workspace host hruns
    cases hworkspace : nonEmpty? t.workspacePath with
    | none =>
      refine hlost ?_ _
      rintro workspace host ⟨-, hsome, -⟩
      rw [hworkspace] at hsome
      cases hsome
    | some workspace =>
      dsimp only
      split
      · next hruntime => exact hlost (fun _ _ hruns => hruntime hruns.1) _
      · next hruntime =>
        refine bind_ends (reconcileHost_ends t) ?_
        rintro host w ⟨rfl, rfl⟩
        have htarget : targetHost? w.db t = targetHost? db t := by
          unfold targetHost?
          rw [hhost]
        rw [htarget]
        cases hhosts : targetHost? db t with
        | none =>
          refine hlost ?_ _
          rintro workspace host ⟨-, -, hsome⟩
          rw [hhosts] at hsome
          cases hsome
        | some host =>
          dsimp only
          have hruns : RunsOn db t workspace host := ⟨not_not.mp hruntime, hworkspace, hhosts⟩
          refine Safe.seq (findWindow_runs (alias_of_targetHost haliases hhosts) t.id) ?_ ?_
          · rintro found w' ⟨hfound, rfl⟩
            obtain rfl := Except.ok.inj hfound
            exact reattach_ends hb hrow hlive hwid hactive hretiring hruns
          · rintro e w' ⟨⟨⟩, -⟩

end Round

/-! ## The rounds -/

open Classical in
/-- What the rounds for these tasks do. -/
structure Rounds (settings : Settings) (probe : PaneProbe) (db : Db) (ts : List Task) (w : World)
    (n : Nat) (w' : World) : Prop where
  settled : ∀ t ∈ ts, t.state.isLive = true →
    Settled settings probe db t (db.berth t.id) (w'.berth t.id)
  kept : ∀ t ∈ ts, t.state.isLive = false → w'.berth t.id = db.berth t.id
  count : n = ts.countP fun t => Attached settings probe db t
  other : ∀ tid, tid ∉ ts.map Task.id → w'.berth tid = w.berth tid

theorem reconcileAll_ends {db : Db}
    (haliases : ∀ row ∈ db.host.rows, Tmux.isAlias row.sshAlias = true) {ts : List Task}
    (hnodup : (ts.map Task.id).Nodup) (hrows : ∀ t ∈ ts, db.task? t.id = some t)
    (hberths : ∀ t ∈ ts, w.berth t.id = db.berth t.id) (hretiring : w.retiring = [])
    (hhost : w.db.host = db.host) :
    Runs settings probe (reconcileAll settings ts) (Ends (Rounds settings probe db ts w)) w := by
  induction ts generalizing w with
  | nil =>
    exact ⟨fun _ h => absurd h List.not_mem_nil, fun _ h => absurd h List.not_mem_nil, rfl,
      fun _ _ => rfl⟩
  | cons t ts ih =>
    obtain ⟨hnotin, hnodup⟩ := List.nodup_cons.mp hnodup
    have hnew : ∀ t' ∈ ts, t'.id ≠ t.id := fun t' ht' heq =>
      hnotin (heq ▸ List.mem_map_of_mem ht')
    refine bind_ends (reconcileTask_ends (hberths t List.mem_cons_self) (hrows t List.mem_cons_self)
      hretiring hhost (activeWorkerId_berth _ _) haliases) ?_
    rintro n w₁ hround
    refine bind_ends (ih hnodup (fun t' ht' => hrows t' (List.mem_cons_of_mem t ht'))
      (fun t' ht' => ?_) hround.retiring (hround.beyond.host.trans hhost)) ?_
    · rw [hround.beyond.berth t'.id (hnew t' ht'), hberths t' (List.mem_cons_of_mem t ht')]
    · rintro m w₂ hrounds
      have hsame : w₂.berth t.id = w₁.berth t.id := hrounds.other t.id hnotin
      refine ⟨?_, ?_, ?_, ?_⟩
      · intro t' ht' hlive
        rcases List.mem_cons.mp ht' with rfl | ht'
        · rw [hsame]
          exact hround.settled hlive
        · exact hrounds.settled t' ht' hlive
      · intro t' ht' hdead
        rcases List.mem_cons.mp ht' with rfl | ht'
        · rw [hsame]
          exact hround.kept hdead
        · exact hrounds.kept t' ht' hdead
      · rw [List.countP_cons, hrounds.count, hround.count, Nat.add_comm]
        by_cases hattached : Attached settings probe db t <;> simp [hattached]
      · intro tid htid
        obtain ⟨hne, htid⟩ := not_or.mp (mt List.mem_cons.mpr htid)
        rw [hrounds.other tid htid, hround.beyond.berth tid hne]

end ReconciliationLemmas

open ReconciliationLemmas in
open Classical in
/-- The reconciliation of a process that starts: a task that was running, paused or stuck is
reattached, left alone or lost, as its probes and its worker row say; nothing is done to another
task; and the number of tasks that were reattached is returned. Only SQLite makes it raise. -/
theorem reconcile_exact (settings : Settings) (probe : PaneProbe) (db : Db)
    (haliases : ∀ row ∈ db.host.rows, Tmux.isAlias row.sshAlias = true) (envs : List Env)
    (hanswers : (reconcileRunning settings).Permitted (process settings) 0 (probe.Answers settings)
      envs (.boot db)) {r : Except PyErr Nat} {w : World}
    (hrun : (reconcileRunning settings).perform (process settings) 0 envs (.boot db) =
      some (r, w)) :
    (∀ e, r = .error e → e.cls = .operationalError) ∧
    ∀ n, r = .ok n →
      (∀ t ∈ db.task.rows, t.state.isLive = true →
        Settled settings probe db t (db.berth t.id) (w.berth t.id)) ∧
      (∀ tid, (∀ t, db.task? tid = some t → t.state.isLive = false) →
        w.berth tid = db.berth tid) ∧
      n = db.task.count fun t => Attached settings probe db t := by
  have hperm : (Store.allTasks db).Perm db.task.rows := List.perm_insertionSort _ _
  have hmem : ∀ t, t ∈ Store.allTasks db ↔ t ∈ db.task.rows := fun t => hperm.mem_iff
  have hsafe : Runs settings probe (reconcileRunning settings)
      (Ends (Rounds settings probe db (Store.allTasks db) (.boot db))) (.boot db) := by
    refine bind_ends (read_ends fun _ _ => rfl) ?_
    rintro tasks _ ⟨rfl, rfl⟩
    refine reconcileAll_ends haliases ((hperm.map Task.id).nodup_iff.mpr db.task.nodup)
      (fun t ht => ?_) (fun t _ => rfl) rfl rfl
    exact Table.get?_eq_some_iff.mpr ⟨(hmem t).mp ht, rfl⟩
  have hends := Alone.of_perform hsafe hanswers hrun
  refine ⟨fun e he => ?_, fun n hn => ?_⟩
  · subst he
    exact hends
  · subst hn
    obtain ⟨hsettled, hkept, hcount, hother⟩ := hends
    refine ⟨fun t ht => hsettled t ((hmem t).mpr ht), fun tid hdead => ?_, ?_⟩
    · by_cases hrow : tid ∈ (Store.allTasks db).map Task.id
      · obtain ⟨t, ht, rfl⟩ := List.mem_map.mp hrow
        exact hkept t ht (hdead t (Table.get?_eq_some_iff.mpr ⟨(hmem t).mp ht, rfl⟩))
      · exact hother tid hrow
    · exact hcount.trans (hperm.countP_eq _)

/-- Three running tasks: one here, one on a remote host, and one that is not in tmux. -/
def restartDb : Db :=
  (Store.createWorker { id := ⟨"b", 0⟩, taskId := "b" }
    (Store.createWorker { id := ⟨"a", 0⟩, taskId := "a" }
      (Store.createHost { id := "h", sshAlias := "gpu1", remoteRoot := "/r" }
        (Store.createTasks
          [{ id := "a", projectId := "p", name := "n", spec := "s", state := .running
             workspacePath := some "/a" },
           { id := "b", projectId := "p", name := "n", spec := "s", state := .running
             workspacePath := some "/b", targetHost := some "h" },
           { id := "c", projectId := "p", name := "n", spec := "s", state := .running
             workspacePath := some "/c", runtime := "shell" }]
          (Db.init.insertProject { id := "p", name := "p" }).2).2).2).2).2

/-- The remote host is unreachable. -/
def restartProbe : PaneProbe where
  window tid := "flotilla_" ++ tid
  pane host _ := if host = none then some "%7" else none

/-- The answers, one for each action. -/
def restartEnvs : List Env :=
  [{}, {}, { text := some "flotilla_a" }, { text := some "%7" }, {},
   {}, {}, { text := some "flotilla_b" }, {},
   {}, {}, {}, {}, {}, {}, {}, {}]

/-- The first task is reattached, the second is left alone, and the third is lost. -/
theorem restart_reconciled : ∃ w,
    (reconcileRunning {}).perform (process {}) 0 restartEnvs (.boot restartDb) =
      some (.ok 1, w) ∧
    ∀ t ∈ restartDb.task.rows, t.state.isLive = true →
      Settled {} restartProbe restartDb t (restartDb.berth t.id) (w.berth t.id) := by
  have hone : ((reconcileRunning {}).perform (process {}) 0 restartEnvs (.boot restartDb)).map
      (fun r => r.1.toOption) = some (some 1) := by decide +kernel
  obtain ⟨⟨r, w⟩, hrun, hr⟩ := Option.map_eq_some_iff.mp hone
  cases r with
  | error e => cases hr
  | ok n =>
    cases hr
    exact ⟨w, hrun, ((reconcile_exact {} restartProbe restartDb (by decide +kernel) restartEnvs
      (by decide +kernel) hrun).2 1 rfl).1⟩

end Flotilla
