import KerSorMonitor.Lib.Interference
import KerSorMonitor.Flotilla.Reports

/-!
# Refused steering (`flotilla/actuator.py`, `actuate`)

`actuate` stops, pauses or resumes the external worker and then asks the store. What other threads
do in between is arbitrary: each action of the call finds any state at all. The adapters are a
parameter, since no adapter of the repository implements `pause` and `resume`. A `Trail` keeps
what the call itself did.

Results:
1. `actuateWith_get`: with the adapters of the registry this is `actuate`.
2. `refused_without_effect_iff`: a refusal has no effect exactly when, after the worker was
   steered, the store has the task in the expected state.
-/

namespace Flotilla

open Keyed Threads TaskState
open Prog (call)

/-- `actuate`, with the lookup of adapters as a parameter. -/
def actuateWith (get : String → Except PyErr RuntimeAdapter) (tid : TaskId) (action : String)
    (payload : JsonObj) : Program Actuated := do
  match ← call (.runningHandle tid) with
  | none => return .error "no live worker handle for task"
  | some (wid, h) =>
    let rt ← Prog.ofExcept (get h.backend)
    if action = "nudge" then actuateNudge tid h payload
    else if action = "stop" then actuateStop tid wid h
    else if action = "pause" then actuateSwitch tid h rt true
    else if action = "resume" then actuateSwitch tid h rt false
    else return .error ("unknown action " ++ action)

theorem actuateWith_get : actuateWith Runtime.get = actuate := rfl

/-! ## Trails -/

/-- What one call of `actuate` did. -/
structure Trail where
  /-- The calls of the adapter that steered the worker. -/
  acts : List String := []
  /-- The row of the task before and after each of its actions. -/
  rows : List (Option Task × Option Task) := []
  /-- The state that its write found. -/
  write : Option TaskState := none
  /-- The state that it read last. -/
  read : Option TaskState := none
  /-- The worker that it read last has not ended. -/
  active : Bool := false

namespace Trail

/-- A call of the adapter. One that raises has steered the worker or not (`env.flag`). -/
def steer (g : Trail) (env : Env) (act : String) : Trail :=
  if env.raises = none ∨ env.flag = true then { g with acts := g.acts ++ [act] } else g

/-- What an action adds, beside the rows. -/
def look (tid : TaskId) : {β : Type} → Act β → Env → World → Trail → Trail
  | _, .stop _ _, env, _, g => g.steer env "stop"
  | _, .pauseWorker _, env, _, g => g.steer env "pause"
  | _, .resumeWorker _, env, _, g => g.steer env "resume"
  | _, .store (.getTask tid'), env, w, g =>
    if tid' = tid ∧ env.raises = none then { g with read := w.db.state? tid } else g
  | _, .store (.getWorker wid), env, w, g =>
    if env.raises = none then { g with active := (w.db.worker? wid).any Worker.isActive } else g
  | _, .store (.setTaskState tid' _ _), env, w, g =>
    if tid' = tid ∧ env.raises = none then { g with write := w.db.state? tid } else g
  | _, .store (.finishWorker tid' _ _ _), env, w, g =>
    if tid' = tid ∧ env.raises = none then { g with write := w.db.state? tid } else g
  | _, _, _, _, g => g

/-- What an action adds to a trail of task `tid`. -/
def note (settings : Settings) (tid : TaskId) {β : Type} (a : Act β) (env : Env) (w : World)
    (g : Trail) : Trail :=
  { look tid a env w g with
    rows := g.rows ++ [(w.db.task? tid, (World.exec settings env a w).2.db.task? tid)] }

/-- The call changed no task row. -/
def RowsKept (g : Trail) : Prop := ∀ x ∈ g.rows, x.2 = x.1

end Trail

/-- A refusal leaves the task row and the worker alone. -/
def NoEffect (answer : Actuated) (g : Trail) : Prop :=
  ∀ reason, answer = .error reason → g.RowsKept ∧ g.acts = []

/-- Once the worker was paused (resumed), the compare-and-set finds the task `RUNNING` (`PAUSED`);
once it was stopped, the retirement writes a row, or the task and the worker that are read after it
have ended. -/
def Followed (action : String) (g : Trail) : Prop :=
  g.acts ≠ [] →
    if action = "stop" then
      g.write.isSome = true ∨ g.read.any isTerminal = true ∧ g.active = false
    else g.write = some (if action = "pause" then running else paused)

/-- The runs of one call of `actuate`, whatever the other threads do. -/
abbrev Trails (settings : Settings) (tid : TaskId) {α : Type} (p : Program α)
    (Q : Except PyErr α → World × Trail → Prop) (s : World × Trail) : Prop :=
  Safe (.exposed (process settings) 0 (Trail.note settings tid) fun _ _ _ => True) 0 p Q s

/-- The actions that neither steer the worker nor write a task row, and read no other worker. -/
def Act.Unsteered (wid : Option WorkerId) : {β : Type} → Act β → Prop
  | _, .store (.getWorker w) => wid = some w
  | _, .store q => TransactionLemmas.KeepsTasks q
  | _, .stop _ _ => False
  | _, .pauseWorker _ => False
  | _, .resumeWorker _ => False
  | _, _ => True

namespace SteeringLemmas

open ReportLemmas Store

variable {settings : Settings} {tid : TaskId} {s : World × Trail}

/-- So far the call has steered the worker with `acts`, and has written nothing. -/
structure Pending (acts : List String) (wid : Option WorkerId) (g : Trail) : Prop where
  acts : g.acts = acts
  write : g.write = none
  rows : g.RowsKept
  active : wid = none → g.active = false

/-- A transaction that keeps the task rows. -/
theorem row_of_keepsTasks {α : Type} {q : Transaction α} (hq : TransactionLemmas.KeepsTasks q)
    (env : Env) (w : World) :
    (World.exec settings env (.store q) w).2.db.task? tid = w.db.task? tid := by
  cases hraises : env.raises with
  | some e => rw [Effects.exec_store_raised q hraises]
  | none =>
    rw [Effects.exec_store_done q hraises]
    exact congrArg (Table.get? · tid) (TransactionLemmas.task_eq_of_keepsTasks hq rfl)

theorem row_of_unsteered {wid : Option WorkerId} {β : Type} {a : Act β} (ha : a.Unsteered wid)
    (env : Env) (w : World) : (World.exec settings env a w).2.db.task? tid = w.db.task? tid := by
  cases a with
  | store q =>
    have hq : TransactionLemmas.KeepsTasks q := by
      cases q with
      | getWorker => trivial
      | _ => exact ha
    exact row_of_keepsTasks hq env w
  | _ => exact congrArg (Db.task? · tid) (Effects.exec_db (fun q h => by cases h) w)

theorem look_of_unsteered (tid : TaskId) {wid : Option WorkerId} {β : Type} {a : Act β} (ha : a.Unsteered wid)
    (env : Env) (w : World) (g : Trail) :
    (Trail.look tid a env w g).acts = g.acts ∧ (Trail.look tid a env w g).write = g.write ∧
      (wid = none → (Trail.look tid a env w g).active = g.active) := by
  cases a with
  | store q =>
    cases q with
    | getWorker wid' =>
      obtain rfl : wid = some wid' := ha
      simp only [Trail.look]
      split
      · exact ⟨rfl, rfl, fun h => (by cases h)⟩
      · exact ⟨rfl, rfl, fun _ => rfl⟩
    | getTask tid' =>
      simp only [Trail.look]
      split <;> exact ⟨rfl, rfl, fun _ => rfl⟩
    | setTaskState | finishWorker => exact ha.elim
    | _ => exact ⟨rfl, rfl, fun _ => rfl⟩
  | stop | pauseWorker | resumeWorker => exact ha.elim
  | _ => exact ⟨rfl, rfl, fun _ => rfl⟩

theorem rowsKept_append {rows : List (Option Task × Option Task)} {x : Option Task × Option Task}
    (h : ∀ x ∈ rows, x.2 = x.1) (hx : x.2 = x.1) : ∀ y ∈ rows ++ [x], y.2 = y.1 := by
  intro y hy
  rcases List.mem_append.mp hy with hy | hy
  · exact h y hy
  · rw [List.mem_singleton.mp hy]
    exact hx

theorem note_of_unsteered {acts : List String} {wid : Option WorkerId} {β : Type} {a : Act β}
    (ha : a.Unsteered wid) (env : Env) (w : World) {g : Trail} (h : Pending acts wid g) :
    Pending acts wid (Trail.note settings tid a env w g) := by
  obtain ⟨hacts, hwrite, hactive⟩ := look_of_unsteered tid ha env w g
  exact ⟨hacts.trans h.acts, hwrite.trans h.write,
    rowsKept_append h.rows (row_of_unsteered ha env w),
    fun hwid => (hactive hwid).trans (h.active hwid)⟩

/-- What only reads and records. -/
theorem unsteered_trails {α : Type} {p : Program α} {acts : List String} {wid : Option WorkerId}
    (hp : p.All (Act.Unsteered wid)) (h : Pending acts wid s.2) :
    Trails settings tid p (fun _ s => Pending acts wid s.2) s :=
  Exposed.of_all (P := Pending acts wid)
    (fun _ ha env w _ _ hg => note_of_unsteered ha env w hg) hp h

/-! ### The retirement of a stopped worker -/

theorem getWorker?_unsteered (wid : Option WorkerId) :
    (getWorker? wid).All (Act.Unsteered wid) := by
  cases wid with
  | none => trivial
  | some w => exact Prog.all_call.mpr rfl

theorem getTask_unsteered (wid : Option WorkerId) (tid : TaskId) :
    (store (.getTask tid)).All (Act.Unsteered wid) := Prog.all_call.mpr trivial

theorem endWorker?_unsteered (wid : Option WorkerId) :
    (endWorker? wid).All (Act.Unsteered wid) := by
  cases wid with
  | none => trivial
  | some w => exact Prog.all_call.mpr trivial

theorem recordEvent_unsteered (wid : Option WorkerId) (tid : TaskId) (type : String)
    (payload : JsonObj) : (recordEvent tid type payload).All (Act.Unsteered wid) :=
  Prog.All.bind (Prog.All.bind (Prog.all_call.mpr trivial) fun _ => trivial) fun _ =>
    Prog.all_call.mpr trivial

theorem releaseForRetire_unsteered (task : Task) (tid : TaskId) (wid : Option WorkerId)
    (worker : Option Worker) : (releaseForRetire task tid worker).All (Act.Unsteered wid) := by
  unfold releaseForRetire
  split
  · trivial
  · split
    · refine Prog.All.tryCatch ?_ fun exc => (recordEvent_unsteered wid _ _ _).ignoring
      exact Prog.All.bind (Prog.all_ofExcept _) fun _ => Prog.all_call.mpr trivial
    · trivial

/-- The end of a retirement keeps what the reads and records keep. -/
theorem concludeRetire_trails {P : Trail → Prop} {wid : Option WorkerId}
    (hP : ∀ {β : Type} (a : Act β), a.Unsteered wid → ∀ env w g, P g →
      P (Trail.note settings tid a env w g)) (task : Task) (worker : Option Worker)
    (result : Option String) (h : P s.2) :
    Trails settings tid (concludeRetire task tid wid worker result)
      (fun r s => (∀ out, r = .ok out → out = result) ∧ P s.2) s := by
  have hkeep {α : Type} {p : Program α} (hp : p.All (Act.Unsteered wid)) {s : World × Trail}
      (h : P s.2) : Trails settings tid p (fun _ s => P s.2) s :=
    Exposed.of_all (P := P) (fun a ha env w g _ hg => hP a ha env w g hg) hp h
  refine Safe.seq (hkeep (releaseForRetire_unsteered task tid wid worker) h) ?_ ?_
  · rintro _ s h
    refine Safe.seq (hkeep (p := call (.unregister tid (.retirement tid wid)))
      (Prog.all_call.mpr trivial) h) ?_ ?_
    · rintro _ s h
      exact ⟨fun out hout => (Except.ok.inj hout).symm, h⟩
    · rintro e s h
      exact ⟨fun out hout => (by cases hout), h⟩
  · rintro e s h
    exact ⟨fun out hout => (by cases hout), h⟩

/-- The result of a retirement as `CANCELLED`: it wrote a row and says so, or it wrote nothing. -/
def Retired (acts : List String) (wid : Option WorkerId) (g : Trail) :
    Except PyErr (Option String) → Prop
  | .error _ => True
  | .ok out => out = some "CANCELLED" ∧ g.write.isSome = true ∨
      out ≠ some "CANCELLED" ∧ Pending acts wid g

/-- How its write ends. -/
theorem finishWorker_exec {env : Env} (wid : Option WorkerId) (target : String)
    (hraises : env.raises = none) (w : World) {r : Except PyErr Bool} {w' : World}
    (hx : World.exec settings env (.store (.finishWorker tid wid target none)) w = (r, w')) :
    (∃ e, r = .error e) ∨ (r = .ok false ∧ w.db.task? tid = none ∧ w'.db = w.db) ∨
      (r = .ok true ∧ (w.db.task? tid).isSome = true) := by
  rw [Effects.exec_store_done _ hraises] at hx
  obtain ⟨rfl, rfl⟩ := Prod.mk.inj hx
  rcases StoreLemmas.finishWorker_cases (rfl : Store.finishWorker env.clock.now tid wid target none
    w.db = (_, _)) with ⟨hdb, ⟨hr, hrow⟩ | ⟨e, he⟩⟩ | ⟨row, st, hrow, -, hr, -⟩
  · exact Or.inr (Or.inl ⟨hr, hrow, hdb⟩)
  · exact Or.inl ⟨e, he⟩
  · exact Or.inr (Or.inr ⟨hr, by rw [hrow]; rfl⟩)

theorem finishWorker_trails {acts : List String} {wid : Option WorkerId} {target : String}
    (h : Pending acts wid s.2) :
    Trails settings tid (store (.finishWorker tid wid target none)) (fun r s =>
      (∃ e, r = .error e) ∨ (r = .ok false ∧ Pending acts wid s.2) ∨
        (r = .ok true ∧ s.2.write.isSome = true)) s := by
  refine Exposed.call fun env found _ => ?_
  cases hraises : env.raises with
  | some e => exact Or.inl ⟨_, congrArg Prod.fst (Effects.exec_store_raised _ hraises found)⟩
  | none =>
    have hwrite : (Trail.note settings tid (.store (.finishWorker tid wid target none)) env found
        s.2).write = found.db.state? tid := by
      simp only [Trail.note, Trail.look, hraises, and_self, if_true]
    rcases finishWorker_exec wid target hraises found
      (rfl : World.exec settings env (.store (.finishWorker tid wid target none)) found = (_, _)) with
      herr | ⟨hr, hrow, hdb⟩ | ⟨hr, hrow⟩
    · exact Or.inl herr
    · refine Or.inr (Or.inl ⟨hr, ?_, ?_, ?_, fun hwid => ?_⟩)
      · simp only [Trail.note, Trail.look, hraises, and_self, if_true]
        exact h.acts
      · rw [hwrite]
        exact congrArg (Option.map Task.state) hrow
      · exact rowsKept_append h.rows (congrArg (Db.task? · tid) hdb)
      · simp only [Trail.note, Trail.look, hraises, and_self, if_true]
        exact h.active hwid
    · refine Or.inr (Or.inr ⟨hr, ?_⟩)
      rw [hwrite]
      unfold Db.state?
      rwa [Option.isSome_map]

theorem commitRetire_trails {acts : List String} {wid : Option WorkerId} (task : Task)
    (worker : Option Worker) (handle : Option WorkerHandle) (h : Pending acts wid s.2) :
    Trails settings tid (commitRetire task tid wid worker (some "CANCELLED") handle)
      (fun r s => Retired acts wid s.2 r) s := by
  cases hterminal : task.state.isTerminal with
  | true =>
    have hgate : gateTerminal task (some "CANCELLED") handle = pure (none, none) := if_pos hterminal
    unfold commitRetire
    rw [hgate]
    change Trails settings tid
      (endWorker? wid >>= fun _ => concludeRetire task tid wid worker none) _ s
    refine Safe.seq (unsteered_trails (endWorker?_unsteered wid) h) ?_ fun _ _ _ => trivial
    intro _ s h
    refine (concludeRetire_trails (P := Pending acts wid)
      (fun a ha env w _ hg => note_of_unsteered ha env w hg) task worker none h).mono ?_
    rintro r s ⟨hout, h⟩
    cases r with
    | error e => trivial
    | ok out =>
      obtain rfl := hout out rfl
      exact Or.inr ⟨by decide, h⟩
  | false =>
    have hgate : gateTerminal task (some "CANCELLED") handle = pure (some "CANCELLED", none) := by
      unfold gateTerminal
      rw [hterminal]
      rfl
    unfold commitRetire
    rw [hgate]
    change Trails settings tid (store (.finishWorker tid wid "CANCELLED" none) >>= fun committed =>
      if committed then concludeRetire task tid wid worker
        (if task.state.isTerminal then none else some "CANCELLED")
      else pure none) _ s
    refine Safe.seq (finishWorker_trails h) ?_ ?_
    · rintro committed s (⟨e, he⟩ | ⟨hr, h⟩ | ⟨hr, hwrite⟩)
      · cases he
      · cases hr
        exact Or.inr ⟨by decide, h⟩
      · cases hr
        rw [if_pos rfl, hterminal]
        refine (concludeRetire_trails (P := fun g => g.write.isSome = true) (fun a ha env w g hg =>
          (congrArg Option.isSome (look_of_unsteered tid ha env w g).2.1).trans hg) task worker _
          hwrite).mono ?_
        rintro r s ⟨hout, hwrite⟩
        cases r with
        | error e => trivial
        | ok out => exact Or.inl ⟨hout out rfl, hwrite⟩
    · rintro e s _
      trivial

theorem retireBody_trails {acts : List String} {wid : Option WorkerId}
    (handle : Option WorkerHandle) (h : Pending acts wid s.2) :
    Trails settings tid (retireBody tid wid (some "CANCELLED") false handle)
      (fun r s => Retired acts wid s.2 r) s := by
  have hdrop {s : World × Trail} (h : Pending acts wid s.2) : Trails settings tid
      (call (.unregister tid (.retirement tid wid)) >>= fun _ => pure none)
      (fun r s => Retired acts wid s.2 r) s :=
    Safe.seq (unsteered_trails (p := call (.unregister tid (.retirement tid wid)))
      (Prog.all_call.mpr trivial) h) (fun _ _ h => Or.inr ⟨by decide, h⟩) fun _ _ _ => trivial
  refine Safe.seq (unsteered_trails (getWorker?_unsteered wid) h) ?_ fun _ _ _ => trivial
  intro worker s h
  refine Safe.seq (unsteered_trails (getTask_unsteered wid tid) h) ?_ fun _ _ _ => trivial
  intro task s h
  cases task with
  | none => exact hdrop h
  | some task =>
    dsimp only
    split
    · exact hdrop h
    · exact commitRetire_trails task worker handle h

theorem retire_trails {acts : List String} {wid : Option WorkerId} (h : Pending acts wid s.2) :
    Trails settings tid (retire tid wid (some "CANCELLED") false)
      (fun r s => Retired acts wid s.2 r) s := by
  unfold retire
  rw [if_neg (by decide)]
  refine Safe.seq (unsteered_trails (p := call (.beginRetire tid)) (Prog.all_call.mpr trivial) h)
    ?_ fun _ _ _ => trivial
  intro handle s h
  cases handle with
  | none => exact Or.inr ⟨by decide, h⟩
  | some handle =>
    refine Safe.tryFinally ((retireBody_trails handle h).mono fun r s hretired => ?_)
    refine Exposed.call fun env found _ => ?_
    cases r with
    | error e => trivial
    | ok out =>
      refine hretired.imp (fun hdone => ⟨hdone.1, hdone.2⟩) fun hpending => ⟨hpending.1, ?_⟩
      exact note_of_unsteered (a := .endRetire tid) trivial env found hpending.2

/-! ### The actions -/

/-- What is asked of a call that has returned. -/
def Judged (action : String) (g : Trail) (r : Except PyErr Actuated) : Prop :=
  ∀ answer, r = .ok answer → (NoEffect answer g ↔ Followed action g)

theorem judged_idle {action : String} {wid : Option WorkerId} {g : Trail} (h : Pending [] wid g)
    (answer : Actuated) : Judged action g (.ok answer) := fun _ _ =>
  iff_of_true (fun _ _ => ⟨h.rows, h.acts⟩) fun hacts => absurd h.acts hacts

theorem judged_error {action : String} {g : Trail} (e : PyErr) :
    Judged action g (.error e) := fun answer h => by cases h

theorem judged_done {action : String} {g : Trail} (h : Followed action g) :
    Judged action g (.ok (.ok ())) := by
  rintro _ ⟨⟩
  exact iff_of_true (fun reason h => by cases h) h

/-- A refusal after the worker was steered. -/
theorem judged_refused {action : String} {g : Trail} (hacts : g.acts ≠ []) (reason : String)
    (h : ¬ Followed action g) : Judged action g (.ok (.error reason)) := by
  rintro _ ⟨⟩
  exact iff_of_false (fun hno => hacts (hno reason rfl).2) h

/-- After a call of the adapter the worker is steered, unless the call raised without an effect. -/
def Steered (act : String) (wid : Option WorkerId) (r : Except PyErr Unit) (g : Trail) : Prop :=
  g.read = none ∧ (Pending [act] wid g ∨ (∃ e, r = .error e) ∧ Pending [] wid g)

theorem steered {wid : Option WorkerId} {g : Trail} {a : Act Unit} {act : String} {env : Env}
    {w : World} {r : Except PyErr Unit} (h : Pending [] wid g) (hread : g.read = none)
    (hdb : ∀ q : Transaction Unit, a ≠ .store q)
    (hlook : Trail.look tid a env w g = g.steer env act)
    (hr : ∀ exc, env.raises = some exc → ∃ e, r = .error e) :
    Steered act wid r (Trail.note settings tid a env w g) := by
  have hrow : (World.exec settings env a w).2.db.task? tid = w.db.task? tid :=
    congrArg (Db.task? · tid) (Effects.exec_db hdb w)
  unfold Trail.note
  rw [hlook]
  unfold Trail.steer
  split
  · exact ⟨hread, Or.inl ⟨by rw [h.acts]; rfl, h.write, rowsKept_append h.rows hrow, h.active⟩⟩
  · next hraises =>
    refine ⟨hread, Or.inr ⟨?_, h.acts, h.write, rowsKept_append h.rows hrow, h.active⟩⟩
    cases hexc : env.raises with
    | none => exact absurd (Or.inl hexc) hraises
    | some exc => exact hr exc hexc

theorem stop_trails {wid : Option WorkerId} (h : WorkerHandle) (caller : Caller)
    (hs : Pending [] wid s.2) (hread : s.2.read = none) :
    Trails settings tid (call (.stop h caller)) (fun r s => Steered "stop" wid r s.2) s := by
  refine Exposed.call fun env found _ => steered hs hread (fun q hq => by cases hq) rfl ?_
  intro exc hexc
  change ∃ e, (found.stop h env).1 = .error e
  unfold World.stop World.stopWorker
  rw [hexc]
  cases Runtime.get h.backend with
  | error e => exact ⟨e, rfl⟩
  | ok rt => exact ⟨exc, rfl⟩

theorem getTask_trails {acts : List String} {wid : Option WorkerId} (h : Pending acts wid s.2) :
    Trails settings tid (store (.getTask tid)) (fun r s => (∃ e, r = .error e) ∨ ∃ task,
      r = .ok task ∧ Pending acts wid s.2 ∧ s.2.read = task.map Task.state) s := by
  refine Exposed.call fun env found _ => ?_
  have hpending : Pending acts wid (Trail.note settings tid (.store (.getTask tid)) env found s.2) :=
    note_of_unsteered (a := .store (.getTask tid)) trivial env found h
  cases hraises : env.raises with
  | some e => exact Or.inl ⟨_, congrArg Prod.fst (Effects.exec_store_raised _ hraises found)⟩
  | none =>
    refine Or.inr ⟨_, congrArg Prod.fst (Effects.exec_store_done _ hraises found), hpending, ?_⟩
    simp only [Trail.note, Trail.look, hraises, and_self, if_true]
    rfl

theorem getWorker?_trails {acts : List String} {wid : Option WorkerId} {read : Option TaskState}
    (h : Pending acts wid s.2) (hread : s.2.read = read) :
    Trails settings tid (getWorker? wid) (fun r s => (∃ e, r = .error e) ∨ ∃ worker,
      r = .ok worker ∧ s.2.acts = acts ∧ s.2.write = none ∧ s.2.read = read ∧
        s.2.active = worker.any Worker.isActive) s := by
  cases wid with
  | none => exact Or.inr ⟨none, rfl, h.acts, h.write, hread, h.active rfl⟩
  | some w =>
    refine Exposed.call fun env found _ => ?_
    have hpending : Pending acts (some w)
        (Trail.note settings tid (.store (.getWorker w)) env found s.2) :=
      note_of_unsteered (a := .store (.getWorker w)) rfl env found h
    cases hraises : env.raises with
    | some e => exact Or.inl ⟨_, congrArg Prod.fst (Effects.exec_store_raised _ hraises found)⟩
    | none =>
      refine Or.inr ⟨_, congrArg Prod.fst (Effects.exec_store_done _ hraises found),
        hpending.acts, hpending.write, ?_, ?_⟩
      · simp only [Trail.note, Trail.look, hraises, if_true]
        exact hread
      · simp only [Trail.note, Trail.look, hraises, if_true]
        rfl

theorem actuateStop_trails (wid : Option WorkerId) (h : WorkerHandle) (hs : Pending [] wid s.2)
    (hread : s.2.read = none) :
    Trails settings tid (actuateStop tid wid h) (fun r s => Judged "stop" s.2 r) s := by
  unfold actuateStop
  refine Safe.bind (Safe.attempt ((stop_trails h _ hs hread).mono ?_))
  rintro r s ⟨hread, hs⟩
  rcases r with e | ⟨⟩
  · -- the worker may have been stopped all the same
    rcases hs with hs | ⟨-, hs⟩
    · refine judged_refused (by rw [hs.acts]; decide) _ fun hfollowed => ?_
      have hended := hfollowed (by rw [hs.acts]; decide)
      simp only [if_true, hs.write, hread, Option.isSome_none, Option.any_none,
        Bool.false_eq_true, false_and, or_self] at hended
    · exact judged_idle hs _
  · obtain hs | ⟨⟨e, he⟩, -⟩ := hs
    case inr => cases he
    refine Safe.seq (retire_trails hs) ?_ fun e _ _ => judged_error e
    intro finalState s hretired
    rcases hretired with ⟨rfl, hwrite⟩ | ⟨hne, hs⟩
    · rw [if_pos rfl]
      exact judged_done fun _ => Or.inl hwrite
    · rw [if_neg hne]
      refine Safe.seq (getTask_trails hs) ?_ fun e _ _ => judged_error e
      rintro task s (⟨e, he⟩ | ⟨_, ⟨⟩, hs, hread⟩)
      · cases he
      refine Safe.seq (getWorker?_trails hs hread) ?_ fun e _ _ => judged_error e
      rintro worker s (⟨e, he⟩ | ⟨_, ⟨⟩, hacts, hwrite, hread, hactive⟩)
      · cases he
      have hstate : (task.any fun t => t.state.isTerminal) = s.2.read.any isTerminal := by
        rw [hread, Option.any_map]
      rw [hstate, ← hactive]
      split
      · next hended =>
        rw [Bool.and_eq_true, Bool.not_eq_true'] at hended
        exact judged_done fun _ => Or.inr hended
      · next hended =>
        refine judged_refused (by rw [hacts]; decide) _ fun hfollowed => ?_
        rcases hfollowed (by rw [hacts]; decide) with h | h
        · rw [hwrite] at h
          cases h
        · rw [Bool.and_eq_true, Bool.not_eq_true'] at hended
          exact hended h

/-- The action of a switch. -/
def switchAction (pause : Bool) : String := if pause then "pause" else "resume"

/-- The state that a switch expects. -/
def switchFrom (pause : Bool) : TaskState := if pause then running else paused

/-- The call of the adapter in a switch. -/
def switchAct (h : WorkerHandle) (pause : Bool) : Act Unit :=
  if pause then .pauseWorker h else .resumeWorker h

theorem switch_exec (h : WorkerHandle) (pause : Bool) (env : Env) (w : World) :
    World.exec settings env (switchAct h pause) w = env.outside () w := by
  cases pause <;> rfl

theorem switch_look (h : WorkerHandle) (pause : Bool) (env : Env) (w : World) (g : Trail) :
    Trail.look tid (switchAct h pause) env w g = g.steer env (switchAction pause) := by
  cases pause <;> rfl

theorem switch_ne_store (h : WorkerHandle) (pause : Bool) (q : Transaction Unit) :
    switchAct h pause ≠ .store q := by
  cases pause <;> exact fun hq => by cases hq

theorem switch_trails {wid : Option WorkerId} (h : WorkerHandle) (pause : Bool)
    (hs : Pending [] wid s.2) (hread : s.2.read = none) :
    Trails settings tid (call (switchAct h pause))
      (fun r s => Steered (switchAction pause) wid r s.2) s := by
  refine Exposed.call fun env found _ =>
    steered hs hread (switch_ne_store h pause) (switch_look h pause env found s.2) ?_
  intro exc hexc
  change ∃ e, (World.exec settings env (switchAct h pause) found).1 = .error e
  rw [switch_exec]
  unfold Env.outside
  rw [hexc]
  exact ⟨exc, rfl⟩

/-- The compare-and-set of a switch. -/
def switchWrite (tid : TaskId) (pause : Bool) : Transaction Bool :=
  .setTaskState tid (if pause then "PAUSED" else "RUNNING") (some [switchFrom pause])

/-- It commits exactly when it finds the expected state. -/
theorem switchWrite_exec (pause : Bool) (clock : Clock) (db : Db) :
    ((switchWrite tid pause).exec settings clock db).1 = .ok true ↔
      db.state? tid = some (switchFrom pause) := by
  change (Store.setTaskState clock.now tid _ _ db).1 = _ ↔ _
  constructor
  · intro hr
    rcases StoreLemmas.setTaskState_cases (rfl : Store.setTaskState clock.now tid
      (if pause then "PAUSED" else "RUNNING") (some [switchFrom pause]) db = (_, _)) with
      ⟨-, hne⟩ | ⟨row, st, hrow, hexpected, -⟩
    · exact absurd hr hne
    · have hstate : row.state = switchFrom pause := List.mem_singleton.mp (hexpected _ rfl)
      exact (congrArg (Option.map Task.state) hrow).trans (congrArg some hstate)
  · intro hstate
    obtain ⟨row, hrow, hrowState⟩ := Option.map_eq_some_iff.mp hstate
    unfold Store.setTaskState connection
    change db.task? tid = some row at hrow
    simp only [hrow, hrowState]
    cases pause <;> rfl

theorem switchState_trails {acts : List String} {wid : Option WorkerId} (pause : Bool)
    (h : Pending acts wid s.2) :
    Trails settings tid (store (switchWrite tid pause)) (fun r s => s.2.acts = acts ∧
      (r = .ok true ↔ s.2.write = some (switchFrom pause))) s := by
  refine Exposed.call fun env found _ => ?_
  change (Trail.look tid (.store (switchWrite tid pause)) env found s.2).acts = acts ∧
    ((World.exec settings env (.store (switchWrite tid pause)) found).1 = .ok true ↔
      (Trail.look tid (.store (switchWrite tid pause)) env found s.2).write =
        some (switchFrom pause))
  have hlook : Trail.look tid (.store (switchWrite tid pause)) env found s.2 =
      if tid = tid ∧ env.raises = none then { s.2 with write := found.db.state? tid } else s.2 := rfl
  rw [hlook]
  cases hraises : env.raises with
  | some e =>
    rw [Effects.exec_store_raised _ hraises, if_neg (by simp)]
    refine ⟨h.acts, iff_of_false (fun hr => by cases hr) fun hwrite => ?_⟩
    rw [h.write] at hwrite
    cases hwrite
  | none =>
    rw [Effects.exec_store_done _ hraises, if_pos ⟨rfl, rfl⟩]
    exact ⟨h.acts, switchWrite_exec pause env.clock found.db⟩

theorem actuateSwitch_trails {wid : Option WorkerId} (h : WorkerHandle) (rt : RuntimeAdapter)
    (pause : Bool) (hs : Pending [] wid s.2) (hread : s.2.read = none) :
    Trails settings tid (actuateSwitch tid h rt pause)
      (fun r s => Judged (switchAction pause) s.2 r) s := by
  have hne {g : Trail} (hacts : g.acts = [switchAction pause]) : g.acts ≠ [] := by
    rw [hacts]
    exact List.cons_ne_nil _ _
  have hfollowed {g : Trail} (hacts : g.acts = [switchAction pause]) :
      Followed (switchAction pause) g ↔ g.write = some (switchFrom pause) := by
    unfold Followed
    cases pause <;> exact ⟨fun h => h (hne hacts), fun h _ => h⟩
  unfold actuateSwitch
  dsimp only
  by_cases hsupported : (!(if pause then rt.hasPause else rt.hasResume)) = true
  · rw [if_pos hsupported]
    exact judged_idle hs _
  rw [if_neg hsupported]
  refine Safe.bind (Safe.attempt (Safe.seq (p := call (switchAct h pause))
    (f := fun _ => store (switchWrite tid pause)) (switch_trails h pause hs hread) ?_ ?_))
  · rintro _ s ⟨-, hs | ⟨⟨e, he⟩, -⟩⟩
    case inr => cases he
    refine (switchState_trails pause hs).mono ?_
    rintro r s ⟨hacts, hwrite⟩
    rcases r with e | _ | _
    · refine judged_refused (hne hacts) _ fun h => ?_
      cases hwrite.mpr ((hfollowed hacts).mp h)
    · refine judged_refused (hne hacts) _ fun h => ?_
      cases hwrite.mpr ((hfollowed hacts).mp h)
    · exact judged_done ((hfollowed hacts).mpr (hwrite.mp rfl))
  · rintro e s ⟨-, hs | ⟨-, hs⟩⟩
    · refine judged_refused (hne hs.acts) _ fun h => ?_
      rw [hfollowed hs.acts, hs.write] at h
      cases h
    · exact judged_idle hs _

/-- The actions that act on the worker itself. -/
def steering : List String := ["stop", "pause", "resume"]

theorem runningHandle_trails (hs : s.2 = {}) :
    Trails settings tid (call (.runningHandle tid)) (fun r s => (∃ entry, r = .ok entry) ∧
      s.2.read = none ∧ ∀ wid, Pending [] wid s.2) s := by
  refine Exposed.call fun env found _ => ⟨⟨_, rfl⟩, ?_, fun wid => ?_⟩
  · change s.2.read = none
    rw [hs]
  · refine note_of_unsteered (a := .runningHandle tid) trivial env found ?_
    rw [hs]
    exact ⟨rfl, rfl, fun x hx => (by cases hx), fun _ => rfl⟩

theorem actuateWith_trails (get : String → Except PyErr RuntimeAdapter) {action : String}
    (payload : JsonObj) (haction : action ∈ steering) (hs : s.2 = {}) :
    Trails settings tid (actuateWith get tid action payload)
      (fun r s => Judged action s.2 r) s := by
  refine Safe.seq (runningHandle_trails hs) ?_ fun e _ _ => judged_error e
  rintro entry s ⟨-, hread, hs⟩
  cases entry with
  | none => exact judged_idle (hs none) _
  | some entry =>
    obtain ⟨wid, h⟩ := entry
    dsimp only
    cases get h.backend with
    | error e => exact judged_error e
    | ok rt =>
      rcases List.mem_cons.mp haction with rfl | haction
      · exact actuateStop_trails wid h (hs wid) hread
      rcases List.mem_cons.mp haction with rfl | haction
      · exact actuateSwitch_trails h rt true (hs wid) hread
      obtain rfl := List.mem_singleton.mp haction
      exact actuateSwitch_trails h rt false (hs wid) hread

end SteeringLemmas

/-- Whatever the other threads do: a refused `stop`, `pause` or `resume` has no effect exactly when
the store follows the worker. -/
theorem refused_without_effect_iff (settings : Settings)
    (get : String → Except PyErr RuntimeAdapter) (tid : TaskId) (action : String)
    (payload : JsonObj) (haction : action ∈ SteeringLemmas.steering) (found : List (World × Env))
    {answer : Actuated} {g : Trail}
    (hrun : (actuateWith get tid action payload).exposed (process settings) 0
      (Trail.note settings tid) found {} = some (.ok answer, g)) :
    NoEffect answer g ↔ Followed action g :=
  Exposed.of_run (s := (World.boot .init, {})) (Q := fun r g => SteeringLemmas.Judged action g r)
    (SteeringLemmas.actuateWith_trails get payload haction rfl)
    (Prog.suffers_of_forall _ _ fun _ _ _ => trivial) hrun answer rfl

/-! ### Runs of one call -/

/-- The registered worker of task `t`. -/
def entryT : HandleEntry := (none, ⟨"t", "/ws", "shell", .popen 7, ⟨"t", 0⟩⟩)

/-- The worker of task `t` is registered, and the task is in this state. -/
def workerIn (st : TaskState) : World :=
  { rowIn st with handles := Dict.set (rowIn st).handles "t" entryT }

/-- Another thread is in the middle of retiring task `t`, for instance in its evaluation. -/
def retiringT : World := { workerIn .running with retiring := ["t"] }

/-- An adapter that pauses and resumes. -/
def pausing (_ : String) : Except PyErr RuntimeAdapter := .ok ⟨"shell", false, false, true, true⟩

/-- One call of `actuate` on task `t`. -/
def steeringRun (get : String → Except PyErr RuntimeAdapter) (action : String)
    (found : List (World × Env)) : Option (Except PyErr Actuated × Trail) :=
  (actuateWith get "t" action []).exposed (process {}) 0 (Trail.note {} "t") found {}

/-- A `stop` that raises without an effect. -/
theorem raised_stop_without_effect :
    ∃ g, steeringRun Runtime.get "stop" [(workerIn .running, {}),
        (workerIn .running, { raises := some ⟨.runtimeError, "gone"⟩ })] =
      some (.ok (.error "stop failed: gone"), g) ∧ NoEffect (.error "stop failed: gone") g := by
  refine ⟨_, rfl, (refused_without_effect_iff {} Runtime.get "t" "stop" [] (by decide)
    [(workerIn .running, {}), (workerIn .running, { raises := some ⟨.runtimeError, "gone"⟩ })]
    rfl).mpr ?_⟩
  exact fun hacts => absurd rfl hacts

/-- `stop` during another retirement stops the worker and is refused, since the task still reads
`RUNNING`. `pause` of a task that has just ended pauses the worker and is refused. -/
theorem refused_after_steering :
    (∃ g, steeringRun Runtime.get "stop"
        [(workerIn .running, {}), (retiringT, {}), (retiringT, {}), (retiringT, {})] =
      some (.ok (.error "task could not be cancelled"), g) ∧ g.acts = ["stop"] ∧
      ¬ NoEffect (.error "task could not be cancelled") g) ∧
    ∃ g, steeringRun pausing "pause"
        [(workerIn .running, {}), (workerIn .running, {}), (workerIn .done, {})] =
      some (.ok (.error "task is not RUNNING"), g) ∧ g.acts = ["pause"] ∧
      ¬ NoEffect (.error "task is not RUNNING") g := by
  refine ⟨⟨_, rfl, rfl, fun h => ?_⟩, _, rfl, rfl, fun h => ?_⟩
  · cases (h _ rfl).2
  · cases (h _ rfl).2

end Flotilla
