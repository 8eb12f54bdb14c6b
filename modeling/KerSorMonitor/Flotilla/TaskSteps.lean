import KerSorMonitor.Flotilla.Dispatcher
import KerSorMonitor.Flotilla.Effects
import KerSorMonitor.Flotilla.Knowledge

/-!
# The actions as steps of one task

Every action of the control plane is, for each task, a step of the protocol of `TaskView`,
provided that its guards hold.

Results: one lemma for each action.
-/

namespace Flotilla

open Keyed Threads

/-- What the control plane keeps about one task. -/
def Sys.taskView (leases : Prop) (s : Sys) (tid : TaskId) : TaskView where
  id := tid
  stage := s.hist.stage tid
  task := s.world.db.task? tid
  worker n := s.world.db.worker? ⟨tid, n⟩
  handle := Dict.get? s.world.handles tid
  alive n := ⟨tid, n⟩ ∈ s.world.alive
  stopFailed n := ⟨tid, n⟩ ∈ s.world.stopFailed
  leased U n := leases ∧ Dict.get? s.world.held U = some ⟨tid, n⟩
  serial := s.world.serial
  retiring := tid ∈ s.world.retiring
  retirer := s.hist.retirer tid
  blind := s.hist.blind tid
  touched t := s.hist.touched t tid

/-- The state after a transaction that only moves the database. -/
def Sys.withDb (s : Sys) (db : Db) : Sys := ⟨{ s.world with db := db }, s.hist⟩

namespace TaskSteps

open TaskView Effects QuietLemmas Store.StoreLemmas TransactionLemmas

variable {settings : Settings} {leases : Prop} {t : ThreadId} {env : Env} {s s' : Sys}
  {tid tid₀ : TaskId}

theorem Calm.refl (t : ThreadId) (v : TaskView) : Calm t v v where
  id := rfl
  stage := rfl
  task := rfl
  worker := fun _ => Or.inl rfl
  handle := rfl
  alive := fun _ h => h
  stopFailed := fun _ h => h
  leased := rfl
  serial := Nat.le_refl _
  retiring := rfl
  retirer := rfl
  blind := Or.inl rfl
  touched := fun _ _ => rfl
  touched_self := fun h => h

theorem calm_of_eq {v v' : TaskView} (h : v' = v) : Calm t v v' := by
  subst h
  exact Calm.refl t v'

theorem step_of_eq {v v' : TaskView} (h : v' = v) : Step leases t v v' := .calm (calm_of_eq h)

/-- A step of thread `t` at one task, which moves nothing else. -/
structure StepAt (leases : Prop) (t : ThreadId) (tid₀ : TaskId) (s s' : Sys) : Prop where
  head : Step leases t (s.taskView leases tid₀) (s'.taskView leases tid₀)
  frame : ∀ tid, tid ≠ tid₀ → Calm t (s.taskView leases tid) (s'.taskView leases tid)

theorem StepAt.step (h : StepAt leases t tid₀ s s') (tid : TaskId) :
    Step leases t (s.taskView leases tid) (s'.taskView leases tid) := by
  by_cases htid : tid = tid₀
  · exact htid ▸ h.head
  · exact .calm (h.frame tid htid)

theorem StepAt.refl (t : ThreadId) (tid₀ : TaskId) (s : Sys) : StepAt leases t tid₀ s s where
  head := step_of_eq rfl
  frame := fun _ _ => calm_of_eq rfl

theorem calm_of_sameCore (h : SameCore t s s') (tid : TaskId) :
    Calm t (s.taskView leases tid) (s'.taskView leases tid) := by
  refine
    { Calm.refl t (s.taskView leases tid) with
      stage := congrFun h.stage tid
      task := ?_
      worker := fun n => h.worker ⟨tid, n⟩
      handle := ?_
      alive := ?_
      stopFailed := ?_
      leased := ?_
      serial := ?_
      retiring := ?_
      retirer := congrFun h.retirer tid
      blind := h.blind tid
      touched := fun t' hne => h.touched t' tid hne
      touched_self := fun ht => h.touched_self tid ht }
  all_goals simp only [Sys.taskView, Db.task?, h.task, h.handles, h.alive, h.stopFailed, h.held,
    h.serial, h.retiring, imp_self, implies_true, Nat.le_refl]

/-- A quiet action is a calm step of every task. -/
theorem quiet_calm {β : Type} {a : Act β} (ha : a.Quiet) {r : Except PyErr β}
    (h : Sys.exec settings t a env s = (r, s')) (tid : TaskId) :
    Calm t (s.taskView leases tid) (s'.taskView leases tid) :=
  calm_of_sameCore (sameCore_of_quiet ha h) tid

/-! ## The registry, the retirements and the external workers -/

theorem stop_calm {h : WorkerHandle} {caller : Caller} {r : Except PyErr Unit}
    (hx : Sys.exec settings t (.stop h caller) env s = (r, s')) (tid : TaskId) :
    Calm t (s.taskView leases tid) (s'.taskView leases tid) := by
  rcases stop_cases hx with ⟨-, rfl⟩ | ⟨e, -, rfl⟩
  · exact
      { Calm.refl t (s.taskView leases tid) with
        alive := fun n hn => (List.mem_filter.mp hn).1 }
  · exact
      { Calm.refl t (s.taskView leases tid) with
        stopFailed := fun n hn => List.mem_cons_of_mem _ hn }

/-- After a stop its worker is gone, or the stop has failed. -/
theorem stop_stoppedAt {h : WorkerHandle} {caller : Caller} {wid : WorkerId} (hproc : h.proc = wid)
    (hwid : wid = ⟨tid, wid.serial⟩) {r : Except PyErr Unit}
    (hx : Sys.exec settings t (.stop h caller) env s = (r, s')) :
    (s'.taskView leases tid).StoppedAt wid := by
  intro halive
  have halive : (⟨tid, wid.serial⟩ : WorkerId) ∈ s'.world.alive := halive
  rw [← hwid] at halive
  show (⟨tid, wid.serial⟩ : WorkerId) ∈ s'.world.stopFailed
  rw [← hwid]
  rcases stop_cases hx with ⟨-, rfl⟩ | ⟨e, -, rfl⟩
  · simp [hproc] at halive
  · simp [hproc]

theorem register_step {wid : WorkerId} {h : WorkerHandle} {r : Except PyErr Unit}
    (hst : s.hist.stage tid₀ = .claimed t (some wid)) (hproc : h.proc = wid)
    (hx : Sys.exec settings t (.register tid₀ (some wid) h) env s = (r, s')) :
    StepAt leases t tid₀ s s' := by
  obtain ⟨-, rfl⟩ := register_eq hx
  rw [History.record_register hst]
  constructor
  · simp only [Sys.taskView, setAt_same, Dict.get?_set, ↓reduceIte]
    exact .register (v := s.taskView leases tid₀) hst hproc
  · intro tid htid
    refine calm_of_eq ?_
    simp only [Sys.taskView, setAt_of_ne _ _ htid, Dict.get?_set, htid, ↓reduceIte]

theorem doom_step {wid wid' : WorkerId} {r : Except PyErr Unit}
    (hst : s.hist.stage tid₀ = .registered t wid)
    (hstop : (s.taskView leases tid₀).StoppedAt wid)
    (hx : Sys.exec settings t (.unregister tid₀ (.dispatcher wid')) env s = (r, s')) :
    StepAt leases t tid₀ s s' := by
  obtain ⟨-, rfl⟩ := unregister_eq hx
  rw [History.record_unregister_registered hst]
  constructor
  · simp only [Sys.taskView, setAt_same, Dict.get?_pop, ↓reduceIte]
    exact .doom (v := s.taskView leases tid₀) hst hstop
  · intro tid htid
    refine calm_of_eq ?_
    simp only [Sys.taskView, setAt_of_ne _ _ htid, Dict.get?_pop, htid, ↓reduceIte]

/-- A retirement drops the handle of a task that has ended, or of one that is past. -/
theorem unregister_step {caller : Caller} (hcaller : ∀ wid, caller ≠ .dispatcher wid)
    {r : Except PyErr Unit}
    (hguard : (∃ wid, s.hist.stage tid₀ = .ending t wid ∧ (s.taskView leases tid₀).Unleased) ∨
      (s.taskView leases tid₀).Past ∧ ∀ t' wid, s.hist.stage tid₀ ≠ .ending t' wid)
    (hx : Sys.exec settings t (.unregister tid₀ caller) env s = (r, s')) (tid : TaskId) :
    Step leases t (s.taskView leases tid) (s'.taskView leases tid) := by
  obtain ⟨-, rfl⟩ := unregister_eq hx
  rw [History.record_unregister hcaller]
  rcases hguard with ⟨wid, hst, hfree⟩ | ⟨hpast, hst⟩
  · have hclose : s.hist.close t tid₀ = { s.hist with stage := setAt s.hist.stage tid₀ .idle } := by
      simp only [History.close, hst, ↓reduceIte]
    rw [hclose]
    by_cases htid : tid = tid₀
    · subst htid
      simp only [Sys.taskView, setAt_same, Dict.get?_pop, ↓reduceIte]
      exact .close (v := s.taskView leases tid) hst hfree
    · refine step_of_eq ?_
      simp only [Sys.taskView, setAt_of_ne _ _ htid, Dict.get?_pop, htid, ↓reduceIte]
  · have hclose : s.hist.close t tid₀ = s.hist := by
      unfold History.close
      split
      · next t' wid heq => exact absurd heq (hst t' wid)
      · rfl
    rw [hclose]
    by_cases htid : tid = tid₀
    · subst htid
      simp only [Sys.taskView, Dict.get?_pop, ↓reduceIte]
      exact .drop (v := s.taskView leases tid) hpast hst
    · refine step_of_eq ?_
      simp only [Sys.taskView, Dict.get?_pop, htid, ↓reduceIte]

theorem beginRetire_step (hinv : ∀ tid, (s.taskView leases tid).Inv leases)
    {r : Except PyErr (Option (Option WorkerHandle))}
    (hx : Sys.exec settings t (.beginRetire tid₀) env s = (r, s')) (tid : TaskId) :
    Step leases t (s.taskView leases tid) (s'.taskView leases tid) := by
  rcases beginRetire_cases hx with ⟨-, -, rfl⟩ | ⟨hmem, -, rfl⟩
  · exact step_of_eq rfl
  · by_cases htid : tid = tid₀
    · subst htid
      have hr : s.hist.retirer tid = none := by
        have hiff := (hinv tid).retiring
        cases hr : s.hist.retirer tid with
        | none => rfl
        | some t' => exact absurd (hiff.mpr (by simp [Sys.taskView, hr])) hmem
      simp only [Sys.taskView, setAt_same, List.mem_cons, true_or]
      exact .beginRetire (v := s.taskView leases tid) hr
    · refine step_of_eq ?_
      simp only [Sys.taskView, setAt_of_ne _ _ htid, List.mem_cons, htid, false_or]

theorem endRetire_step (hr : s.hist.retirer tid₀ = some t)
    (hst : ∀ wid, s.hist.stage tid₀ ≠ .ending t wid) {r : Except PyErr Unit}
    (hx : Sys.exec settings t (.endRetire tid₀) env s = (r, s')) (tid : TaskId) :
    Step leases t (s.taskView leases tid) (s'.taskView leases tid) := by
  obtain ⟨-, rfl⟩ := endRetire_eq hx
  by_cases htid : tid = tid₀
  · subst htid
    simp only [Sys.taskView, setAt_same, List.mem_filter, ne_eq, not_true_eq_false, decide_false,
      Bool.false_eq_true, and_false]
    exact .endRetire (v := s.taskView leases tid) hr hst
  · refine step_of_eq ?_
    simp only [Sys.taskView, setAt_of_ne _ _ htid, List.mem_filter, ne_eq, htid,
      not_false_eq_true, decide_true, and_true]

/-! ## The worker ids, the leases and the starts of a dispatcher -/

theorem draw_step (hst : s.hist.stage tid₀ = .claimed t none) {r : Except PyErr WorkerId}
    (hx : Sys.exec settings t (.newWorkerId tid₀) env s = (r, s')) :
    StepAt leases t tid₀ s s' := by
  obtain ⟨rfl, rfl⟩ := newWorkerId_eq hx
  have hstage : (s.hist.record t (.newWorkerId tid₀) (.ok ⟨tid₀, s.world.serial⟩)).stage =
      setAt s.hist.stage tid₀ (.claimed t (some ⟨tid₀, s.world.serial⟩)) := if_pos hst
  constructor
  · simp only [Sys.taskView, hstage, setAt_same]
    exact .draw (v := s.taskView leases tid₀) hst
  · intro tid htid
    refine
      { Calm.refl t (s.taskView leases tid) with
        stage := ?_
        serial := Nat.le_succ _ }
    simp only [Sys.taskView, hstage, setAt_of_ne _ _ htid]

/-- The worker that the claim of a task has drawn is the task's. -/
theorem worker_task (hinv : ∀ tid, (s.taskView leases tid).Inv leases) {wid : WorkerId}
    (hw : (s.hist.stage tid).worker = some wid) : wid = ⟨tid, wid.serial⟩ := by
  have hid := ((hinv tid).drawn wid hw).1
  cases wid
  cases hid
  rfl

theorem acquire_step (hinv : ∀ tid, (s.taskView leases tid).Inv leases) {kind : String}
    {wid : WorkerId} {req : JsonObj} (hst : s.hist.stage tid₀ = .claimed t (some wid))
    {r : Except PyErr (Option Lock)}
    (hx : Sys.exec settings t (.acquire kind wid req) env s = (r, s')) :
    StepAt leases t tid₀ s s' := by
  have hwid : wid = ⟨tid₀, wid.serial⟩ := worker_task hinv (by rw [hst]; rfl)
  rcases acquire_cases hx with ⟨-, rfl⟩ | ⟨uuid, -, hne, hfree, -, rfl⟩ | ⟨-, -, rfl⟩
  · exact StepAt.refl t tid₀ _
  · have hheld : ∀ tid U n, Dict.get? (Dict.set s.world.held uuid wid) U = some ⟨tid, n⟩ ↔
        Dict.get? s.world.held U = some ⟨tid, n⟩ ∨ U = uuid ∧ tid = tid₀ ∧ n = wid.serial := by
      intro tid U n
      rw [Dict.get?_set]
      split
      · next heq =>
        subst heq
        rw [hfree, hwid]
        simp [eq_comm]
      · next hU => simp [hU]
    constructor
    · by_cases hleases : leases
      · have hview : (fun U n => leases ∧
            Dict.get? (Dict.set s.world.held uuid wid) U = some ⟨tid₀, n⟩) =
            fun U n => (s.taskView leases tid₀).leased U n ∨ U = uuid ∧ n = wid.serial := by
          funext U n
          simp [hheld, Sys.taskView, hleases]
        simp only [Sys.taskView]
        rw [hview]
        exact .lease (v := s.taskView leases tid₀) uuid hst hne
      · refine step_of_eq ?_
        simp only [Sys.taskView, hleases, false_and]
    · intro tid htid
      refine calm_of_eq ?_
      simp only [Sys.taskView, hheld, htid, false_and, and_false, or_false]
  · exact ⟨step_of_eq rfl, fun _ _ => calm_of_eq rfl⟩

theorem start_step (hinv : ∀ tid, (s.taskView leases tid).Inv leases) {wid : WorkerId}
    (hst : s.hist.stage tid₀ = .claimed t (some wid)) :
    StepAt leases t tid₀ s ⟨{ s.world with alive := wid :: s.world.alive }, s.hist⟩ := by
  have hwid : wid = ⟨tid₀, wid.serial⟩ := worker_task hinv (by rw [hst]; rfl)
  have hmem : ∀ tid n, (⟨tid, n⟩ : WorkerId) ∈ wid :: s.world.alive ↔
      tid = tid₀ ∧ n = wid.serial ∨ ⟨tid, n⟩ ∈ s.world.alive := by
    intro tid n
    rw [List.mem_cons, hwid, WorkerId.mk.injEq]
  constructor
  · simp only [Sys.taskView, hmem, true_and]
    exact .start (v := s.taskView leases tid₀) hst
  · intro tid htid
    refine calm_of_eq ?_
    simp only [Sys.taskView, hmem, htid, false_and, false_or]

/-- A release by the dispatcher or the retirement that owns the lease. -/
theorem releaseId_step {kind resourceId : String} {wid : WorkerId}
    (hown : leases → kind = "gpu" → ((s.hist.stage tid₀).claimer = some t ∨
      ∃ w, s.hist.stage tid₀ = .ending t w) ∧
      ∀ w, Dict.get? s.world.held resourceId = some w → w.task = tid₀)
    {r : Except PyErr Unit}
    (hx : Sys.exec settings t (.releaseId kind resourceId wid) env s = (r, s')) :
    StepAt leases t tid₀ s s' := by
  rcases releaseId_eq hx with ⟨hk, rfl⟩ | ⟨-, rfl⟩
  · have hheld : ∀ tid, (fun U n => leases ∧
        Dict.get? (Dict.pop s.world.held resourceId) U = some ⟨tid, n⟩) =
        fun U n => (s.taskView leases tid).leased U n ∧ U ≠ resourceId := by
      intro tid
      funext U n
      rw [Dict.get?_pop]
      by_cases hU : U = resourceId <;> simp [hU, Sys.taskView]
    by_cases hleases : leases
    · obtain ⟨hst, htask⟩ := hown hleases hk
      constructor
      · simp only [Sys.taskView]
        rw [hheld]
        exact .unlease (v := s.taskView leases tid₀) resourceId hst
      · intro tid htid
        refine calm_of_eq ?_
        have hsame : (fun U n => (s.taskView leases tid).leased U n ∧ U ≠ resourceId) =
            (s.taskView leases tid).leased := by
          funext U n
          refine propext ⟨fun h => h.1, fun h => ⟨h, ?_⟩⟩
          rintro rfl
          exact htid (htask _ h.2)
        simp only [Sys.taskView]
        rw [hheld, hsame]
        rfl
    · have hsame : ∀ tid, Sys.taskView leases ⟨{ s.world with
          held := Dict.pop s.world.held resourceId }, { s.hist with
          holders := setAt s.hist.holders resourceId
            (setAt (s.hist.holders resourceId) wid false) }⟩ tid = s.taskView leases tid := by
        intro tid
        simp only [Sys.taskView, hleases, false_and]
      exact ⟨step_of_eq (hsame tid₀), fun tid _ => calm_of_eq (hsame tid)⟩
  · exact ⟨step_of_eq rfl, fun _ _ => calm_of_eq rfl⟩

/-! ## The transactions -/

theorem worker?_of_eq {db db' : Db} (h : db'.worker = db.worker) (wid : WorkerId) :
    db'.worker? wid = db.worker? wid := by
  simp only [Db.worker?, h]

/-- A transaction that moves task rows and keeps the worker rows. -/
theorem move_step {db' : Db} (hworker : db'.worker = s.world.db.worker)
    (htask : ∀ tid, Moved (s.world.db.task? tid) (db'.task? tid)) (tid : TaskId) :
    Step leases t (s.taskView leases tid) ((s.withDb db').taskView leases tid) := by
  have hw := worker?_of_eq hworker
  simp only [Sys.taskView, Sys.withDb, hw]
  exact .move (v := s.taskView leases tid) (htask tid)

/-- A transaction that moves one task row and keeps the worker rows. -/
theorem moveAt_step {db' : Db} (hworker : db'.worker = s.world.db.worker)
    (hmoved : Moved (s.world.db.task? tid₀) (db'.task? tid₀))
    (hsame : ∀ tid, tid ≠ tid₀ → db'.task? tid = s.world.db.task? tid) :
    StepAt leases t tid₀ s (s.withDb db') := by
  have hw := worker?_of_eq hworker
  constructor
  · simp only [Sys.taskView, Sys.withDb, hw]
    exact .move (v := s.taskView leases tid₀) hmoved
  · intro tid htid
    refine calm_of_eq ?_
    simp only [Sys.taskView, Sys.withDb, hw, hsame tid htid]

theorem moved_setTaskState {now newState : String} {expected : List TaskState}
    (hfrom : ∀ st ∈ expected, st.isLive = false)
    (hto : ∀ st, TaskState.ofName? newState = some st → st.isActive = false) {db db' : Db}
    {r : Except PyErr Bool}
    (h : Store.setTaskState now tid₀ newState (some expected) db = (r, db')) :
    db'.worker = db.worker ∧ Moved (db.task? tid₀) (db'.task? tid₀) ∧
      ∀ tid, tid ≠ tid₀ → db'.task? tid = db.task? tid := by
  rcases setTaskState_cases h with ⟨rfl, -⟩ | ⟨row, st, hrow, hexp, htr, -, rfl⟩
  · exact ⟨rfl, .same _, fun _ _ => rfl⟩
  · obtain ⟨hname, hallowed⟩ := transition_eq_ok htr
    have htask := task?_setStates_of hrow st now
    refine ⟨rfl, ?_, fun tid htid => by rw [htask, if_neg htid]⟩
    rw [htask, if_pos rfl, hrow]
    exact .move (rowStep_setState hallowed) (hfrom _ (hexp _ rfl)) (hto st hname)

/-- The operator's recovery. -/
theorem recover_step {r : Except PyErr Bool}
    (hx : Sys.exec settings t (.store (.setTaskState tid₀ "QUEUED" (some [.lost]))) env s =
      (r, s')) : StepAt leases t tid₀ s s' := by
  rcases store_cases hx with ⟨e, -, -, rfl⟩ | ⟨-, db', hexec, rfl⟩
  · exact StepAt.refl t tid₀ s
  · obtain ⟨hworker, hmoved, hsame⟩ := moved_setTaskState (by decide) (by decide) hexec
    exact moveAt_step hworker hmoved hsame

/-- A pause, a resumption, a nudge, or a worker that is stuck. -/
theorem switch_step {newState : String} {expected : List TaskState}
    (hfrom : ∀ st ∈ expected, st.isLive = true)
    (hto : ∀ st, TaskState.ofName? newState = some st → st.isLive = true)
    {r : Except PyErr Bool}
    (hx : Sys.exec settings t (.store (.setTaskState tid₀ newState (some expected))) env s =
      (r, s')) : StepAt leases t tid₀ s s' := by
  rcases store_cases hx with ⟨e, -, -, rfl⟩ | ⟨-, db', hexec, rfl⟩
  · exact StepAt.refl t tid₀ s
  rcases setTaskState_cases hexec with ⟨rfl, -⟩ | ⟨row, st, hrow, hexp, htr, -, rfl⟩
  · exact StepAt.refl t tid₀ s
  have htask := task?_setStates_of hrow st env.clock.now
  constructor
  · simp only [Sys.taskView, htask, ↓reduceIte]
    exact .switch (v := s.taskView leases tid₀) hrow (hfrom _ (hexp _ rfl))
      (hto st (transition_eq_ok htr).1) rfl
  · intro tid htid
    refine calm_of_eq ?_
    simp only [Sys.taskView, htask, htid, ↓reduceIte]
    rfl

theorem sweep_step {r : Except PyErr (List TaskId)}
    (hx : Sys.exec settings t (.store .markStaleDispatchingLost) env s = (r, s')) (tid : TaskId) :
    Step leases t (s.taskView leases tid) (s'.taskView leases tid) := by
  rcases store_cases hx with ⟨e, -, -, rfl⟩ | ⟨-, db', hexec, rfl⟩
  · exact step_of_eq rfl
  obtain ⟨-, hworker, -, htask⟩ :=
    markStaleDispatchingLost_spec env.clock.now env.clock.cutoff s.world.db
  rw [show (Store.markStaleDispatchingLost env.clock.now env.clock.cutoff s.world.db).2 = db' from
    congrArg Prod.snd hexec] at hworker htask
  refine move_step hworker (fun tid => ?_) tid
  rw [htask]
  cases hrow : s.world.db.task? tid with
  | none => exact .same _
  | some row =>
    simp only [Option.map_some]
    split
    · next hmem =>
      obtain ⟨row₀, hrow₀, hst, -⟩ := mem_staleDispatching.mp hmem
      rw [hrow] at hrow₀
      cases hrow₀
      have hallowed : (TaskState.dispatching, TaskState.lost) ∈ allowed := by decide
      exact .move (rowStep_setState (Or.inr (by rw [hst]; exact hallowed))) (by rw [hst]; rfl) rfl
    · exact .same _

/-- A claim of tasks that are free: their earlier claims are resolved, and no operation in
flight has looked them up. -/
theorem claim_step (hinv : ∀ tid, (s.taskView leases tid).Inv leases) {maxActive : Int}
    (hfree : ∀ task ∈ claimSelection maxActive s.world.db,
      (s.hist.stage task.id).claimer = none ∧ ∀ t', s.hist.touched t' task.id = false)
    {r : Except PyErr (List Task)}
    (hx : Sys.exec settings t (.store (.claimQueuedTasks maxActive)) env s = (r, s'))
    (tid : TaskId) : Step leases t (s.taskView leases tid) (s'.taskView leases tid) := by
  rcases claim_cases hx with ⟨e, -, rfl⟩ | ⟨-, rfl⟩
  · exact step_of_eq rfl
  obtain ⟨-, hworker, -, htask⟩ := claimQueuedTasks_spec env.clock.now maxActive s.world.db
  have hw := worker?_of_eq hworker
  by_cases hmem : tid ∈ (claimSelection maxActive s.world.db).map Task.id
  · obtain ⟨task, hsel, rfl⟩ := List.mem_map.mp hmem
    obtain ⟨hc, htouched⟩ := hfree task hsel
    obtain ⟨hrow, hq⟩ := mem_claimSelection hsel
    have hidle : s.hist.stage task.id = .idle := by
      cases hst : s.hist.stage task.id with
      | idle => rfl
      | claimed | registered | doomed =>
        rw [hst] at hc
        cases hc
      | live w =>
        obtain ⟨row, -, hrow', hl, -⟩ := (hinv task.id).live w hst
        cases hrow.symm.trans hrow'
        rw [hq] at hl
        cases hl
      | ending t' w =>
        have ht := ((hinv task.id).ending t' w hst).2
        rw [show (s.taskView leases task.id).touched t' = false from htouched t'] at ht
        cases ht
    have hrow' : (Store.claimQueuedTasks env.clock.now maxActive s.world.db).2.task? task.id =
        some (Store.claimedRow env.clock.now task) := by
      rw [htask, hrow, Option.map_some, if_pos hmem]
    simp only [Sys.taskView, hrow', hw, History.claim, map_id_claimedRow, hmem, ↓reduceIte]
    exact .claim (v := s.taskView leases task.id) hidle htouched hrow hq rfl
  · refine step_of_eq ?_
    simp only [Sys.taskView, htask, hw, History.claim, map_id_claimedRow, hmem, ↓reduceIte,
      Option.map_id']

/-- The dispatcher gives its claim up. -/
theorem release_step (hst : (s.hist.stage tid₀).claimer = some t)
    (hhandle : Dict.get? s.world.handles tid₀ = none)
    (hstop : (s.taskView leases tid₀).Stopped) (hlease : (s.taskView leases tid₀).Unleased)
    {target : String} (htarget : isReleaseTarget target) {r : Except PyErr Bool}
    (hx : Sys.exec settings t (.store (.releaseTaskClaim tid₀ target)) env s = (r, s')) :
    StepAt leases t tid₀ s s' := by
  have hto : ∀ st, TaskState.ofName? target = some st → st.isActive = false := by
    rcases htarget with rfl | rfl | rfl <;> decide
  obtain ⟨db', hworker, hmoved, hsame, rfl⟩ : ∃ db', db'.worker = s.world.db.worker ∧
      Moved (s.world.db.task? tid₀) (db'.task? tid₀) ∧
      (∀ tid, tid ≠ tid₀ → db'.task? tid = s.world.db.task? tid) ∧
      s' = ⟨{ s.world with db := db' },
        { s.hist with stage := setAt s.hist.stage tid₀ .idle }⟩ := by
    rcases store_cases hx with ⟨e, -, -, rfl⟩ | ⟨-, db', hexec, rfl⟩
    · exact ⟨s.world.db, rfl, .same _, fun _ _ => rfl, by rw [History.recordStore_release hst]⟩
    · obtain ⟨hworker, hmoved, hsame⟩ := moved_setTaskState (by decide) hto hexec
      exact ⟨db', hworker, hmoved, hsame, by rw [History.recordStore_release hst]⟩
  have hw := worker?_of_eq hworker
  constructor
  · simp only [Sys.taskView, hw, setAt_same]
    exact .resolve (v := s.taskView leases tid₀) hst hhandle hstop hlease hmoved
  · intro tid htid
    refine calm_of_eq ?_
    simp only [Sys.taskView, hw, setAt_of_ne _ _ htid, hsame tid htid]

/-- A release by a thread without a claim. -/
theorem releaseAgain_step (hst : (s.hist.stage tid₀).claimer ≠ some t) {target : String}
    (htarget : isReleaseTarget target) {r : Except PyErr Bool}
    (hx : Sys.exec settings t (.store (.releaseTaskClaim tid₀ target)) env s = (r, s')) :
    StepAt leases t tid₀ s s' := by
  have hto : ∀ st, TaskState.ofName? target = some st → st.isActive = false := by
    rcases htarget with rfl | rfl | rfl <;> decide
  rcases store_cases hx with ⟨e, -, -, rfl⟩ | ⟨-, db', hexec, rfl⟩
  · rw [History.recordStore_release_of_ne hst]
    exact StepAt.refl t tid₀ s
  · rw [History.recordStore_release_of_ne hst]
    obtain ⟨hworker, hmoved, hsame⟩ := moved_setTaskState (by decide) hto hexec
    exact moveAt_step hworker hmoved hsame

/-- The activation of the worker whose handle is registered. -/
theorem activate_step {worker : Worker} {workspace : String}
    (hst : s.hist.stage tid₀ = .registered t worker.id) (hid : worker.id = ⟨tid₀, worker.id.serial⟩)
    (htid₀ : worker.taskId = tid₀) (hact : worker.isActive = true)
    (hlease : leases → ∀ row, s.world.db.task? tid₀ = some row → row.state = .dispatching →
      s.hist.blind tid₀ = false ∧ ∀ U, (s.taskView leases tid₀).leased U worker.id.serial ↔
        worker.resourceLockId = some U ∧ row.AsksGpu)
    {r : Except PyErr Bool}
    (hx : Sys.exec settings t (.store (.activateWorker tid₀ worker workspace)) env s = (r, s')) :
    StepAt leases t tid₀ s s' := by
  rcases store_cases hx with ⟨e, -, rfl, rfl⟩ | ⟨-, db', hexec, rfl⟩
  · rw [History.recordStore_activate_of_ne (by simp)]
    exact StepAt.refl t tid₀ s
  rcases activateWorker_cases hexec with ⟨rfl, hr⟩ |
    ⟨row, hu, hrow, hd, rfl, -, hworker, -, htask⟩
  · rw [History.recordStore_activate_of_ne hr]
    exact StepAt.refl t tid₀ s
  have hw : ∀ wid, db'.worker? wid =
      if worker.id = wid then some worker else s.world.db.worker? wid := fun wid => by
    unfold Db.worker?
    rw [hworker]
    exact Table.get?_insert _ _ hu wid
  constructor
  · have hview : (fun n => db'.worker? ⟨tid₀, n⟩) =
        setAt (s.taskView leases tid₀).worker worker.id.serial (some worker) := by
      funext n
      rw [hw, setAt_apply, hid]
      simp only [WorkerId.mk.injEq, true_and, eq_comm, Sys.taskView]
    simp only [Sys.taskView, hview, htask, History.recordStore, setAt_same, ↓reduceIte]
    exact .activate (v := s.taskView leases tid₀) hst hrow hd rfl rfl htid₀ hact
      fun hleases => hlease hleases row hrow hd
  · intro tid htid
    refine calm_of_eq ?_
    have hne : ∀ n, worker.id ≠ ⟨tid, n⟩ := by
      intro n heq
      rw [hid] at heq
      exact htid (WorkerId.mk.inj heq).1.symm
    simp only [Sys.taskView, hw, hne, htask, htid, History.recordStore, setAt_of_ne _ _ htid,
      ↓reduceIte]

/-- The worker rows after the end of `wid`, seen from a task that has no active worker of that
id. -/
theorem worker?_endWorkerOpt (db : Db) {wid : Option WorkerId} {now : String} {w : WorkerId}
    (h : ∀ row, db.worker? w = some row → row.isActive = true → wid ≠ some w) :
    (Store.endWorkerOpt db wid now).worker? w = db.worker? w := by
  cases wid with
  | none => rfl
  | some wid =>
    refine (Db.worker?_endWorkerRow db wid now w).trans ?_
    cases hrow : db.worker? w with
    | none => rfl
    | some row =>
      have hid : row.id = w := Table.key_of_get? hrow
      cases hact : row.isActive with
      | false => simp [hact]
      | true =>
        have hne : w ≠ wid := fun heq => h row hrow hact (by rw [heq])
        simp [hid, hne]

/-- The commit of a retirement. -/
theorem finish_step (hinv : ∀ tid, (s.taskView leases tid).Inv leases) {wid : Option WorkerId}
    {terminalState : String} {event : Option Event}
    (hwid : ∀ w, wid = some w → w.task = tid₀)
    (hto : ∀ st, TaskState.ofName? terminalState = some st → st.isFinal = true)
    (hlive : ∀ w, s.hist.stage tid₀ = .live w → wid = some w ∧ s.hist.retirer tid₀ = some t ∧
      s.hist.touched t tid₀ = true ∧ (s.taskView leases tid₀).StoppedAt w)
    {r : Except PyErr Bool}
    (hx : Sys.exec settings t (.store (.finishWorker tid₀ wid terminalState event)) env s =
      (r, s')) (tid : TaskId) :
    Step leases t (s.taskView leases tid) (s'.taskView leases tid) := by
  rcases store_cases hx with ⟨e, -, rfl, rfl⟩ | ⟨-, db', hexec, rfl⟩
  · exact step_of_eq rfl
  rcases finishWorker_cases hexec with ⟨rfl, hr⟩ | ⟨row, st, hrow, htr, rfl, hworker, -, htask⟩
  · rcases hr with ⟨rfl, -⟩ | ⟨e, rfl⟩ <;> exact step_of_eq rfl
  obtain ⟨hname, hallowed⟩ := transition_eq_ok htr
  have hfinal := hto st hname
  have hw : ∀ w, db'.worker? w = (Store.endWorkerOpt s.world.db wid env.clock.now).worker? w :=
    fun w => by simp only [Db.worker?, hworker]
  by_cases hst : ∃ w, s.hist.stage tid₀ = .live w
  · obtain ⟨w, hst⟩ := hst
    obtain ⟨rfl, hr, ht, hstop⟩ := hlive w hst
    have hw₀ : w = ⟨tid₀, w.serial⟩ := worker_task hinv (by rw [hst]; rfl)
    have hhist : s.hist.recordStore t (.finishWorker tid₀ (some w) terminalState event)
        (.ok true) = { s.hist with stage := setAt s.hist.stage tid₀ (.ending t w) } := by
      simp only [History.recordStore, hst]
    rw [hhist]
    by_cases htid : tid = tid₀
    · subst htid
      obtain ⟨row', wr, hrow', hl, hwr, hact, -⟩ := (hinv tid).live w hst
      have hwr' : s.world.db.worker? w = some wr := by
        rw [hw₀]
        exact hwr
      have hid : wr.id = w := Table.key_of_get? hwr'
      have hview : (fun n => db'.worker? ⟨tid, n⟩) =
          setAt (s.taskView leases tid).worker w.serial
            (some { wr with endedAt := some env.clock.now }) := by
        funext n
        rw [hw, setAt_apply]
        split
        · next heq =>
          subst heq
          rw [← hw₀]
          refine (Db.worker?_endWorkerRow s.world.db w env.clock.now w).trans ?_
          simp [hwr', hid, hact]
        · next hne =>
          refine worker?_endWorkerOpt s.world.db fun row _ _ heq => hne ?_
          rw [Option.some.inj heq]
      have htaskId : wr.taskId = tid := (hinv tid).rows _ _ hwr
      simp only [Sys.taskView, hview, htask, setAt_same, ↓reduceIte]
      exact .finish (v := s.taskView leases tid) hst hr ht hrow (by exact hfinal) hwr
        (by exact htaskId) (by rfl) hstop
    · refine step_of_eq ?_
      have hsame : ∀ n, db'.worker? ⟨tid, n⟩ = s.world.db.worker? ⟨tid, n⟩ := by
        intro n
        rw [hw]
        refine worker?_endWorkerOpt s.world.db fun _ _ _ heq => htid ?_
        rw [← hwid w rfl, Option.some.inj heq]
      simp only [Sys.taskView, hsame, htask, htid, setAt_of_ne _ _ htid, ↓reduceIte]
  · -- no worker is active, so none is ended
    have hnot : ∀ w, s.hist.stage tid₀ ≠ .live w := fun w heq => hst ⟨w, heq⟩
    have hhist : s.hist.recordStore t (.finishWorker tid₀ wid terminalState event) (.ok true) =
        s.hist := by
      cases hst' : s.hist.stage tid₀ with
      | live w => exact absurd hst' (hnot w)
      | _ => simp only [History.recordStore, hst']
    rw [hhist]
    have hsame : ∀ n, db'.worker? ⟨tid, n⟩ = s.world.db.worker? ⟨tid, n⟩ := by
      intro n
      rw [hw]
      refine worker?_endWorkerOpt s.world.db fun wr hwr hact heq => ?_
      have htid : tid = tid₀ := hwid _ heq
      subst htid
      exact hnot _ ((hinv tid).active n wr hwr hact)
    simp only [Sys.taskView, hsame]
    refine .move (v := s.taskView leases tid) ?_
    rw [htask]
    split
    · next heq =>
      subst heq
      rw [show (s.taskView leases tid).task = some row from hrow]
      exact .move (rowStep_setState hallowed) ((hinv tid).not_live hnot hrow)
        (isActive_of_isFinal hfinal)
    · exact .same _

/-- A submission of queued tasks; where the leases are followed, no operation in flight has
looked them up. -/
theorem create_step {ts : List Task} (hq : ∀ task ∈ ts, task.state = .queued)
    (hfree : leases → ∀ task ∈ ts, ∀ t', s.hist.touched t' task.id = false)
    {r : Except PyErr Unit}
    (hx : Sys.exec settings t (.store (.createTasks ts)) env s = (r, s')) (tid : TaskId) :
    Step leases t (s.taskView leases tid) (s'.taskView leases tid) := by
  rcases store_cases hx with ⟨e, -, rfl, rfl⟩ | ⟨-, db', hexec, rfl⟩
  · exact step_of_eq rfl
  rcases createTasks_cases hexec with ⟨rfl, hr⟩ | ⟨rfl, hworker, -, htask, -⟩
  · rcases r with e | u
    · exact step_of_eq rfl
    · exact absurd rfl hr
  have hw := worker?_of_eq hworker
  cases hrow : s.world.db.task? tid with
  | some row =>
    refine step_of_eq ?_
    simp only [Sys.taskView, hw, htask, hrow, Option.some_or, History.recordStore]
  | none =>
    cases hfind : ts.find? fun task => task.id = tid with
    | none =>
      refine step_of_eq ?_
      simp only [Sys.taskView, hw, htask, hrow, hfind, Option.or_none, History.recordStore]
    | some row =>
      have hmem := List.mem_of_find?_eq_some hfind
      have hid : row.id = tid := by simpa using List.find?_some hfind
      have htask' : db'.task? tid = some row := by rw [htask, hrow, hfind, Option.none_or]
      simp only [Sys.taskView, hw, htask', History.recordStore]
      exact .create (v := s.taskView leases tid) hrow (hq row hmem)
        fun hleases t' => hid ▸ hfree hleases row hmem t'

theorem delete_step (hinv : ∀ tid, (s.taskView leases tid).Inv leases)
    (hpast : (s.taskView leases tid₀).Past) {r : Except PyErr Unit}
    (hx : Sys.exec settings t (.store (.deleteTask tid₀)) env s = (r, s')) (tid : TaskId) :
    Step leases t (s.taskView leases tid) (s'.taskView leases tid) := by
  rcases store_cases hx with ⟨e, -, rfl, rfl⟩ | ⟨-, db', hexec, rfl⟩
  · exact step_of_eq rfl
  have hdb : db' = s.world.db.deleteTaskRows tid₀ := by cases hexec; rfl
  subst hdb
  by_cases htid : tid = tid₀
  · subst htid
    have hgone : ∀ n, (s.world.db.deleteTaskRows tid).worker? ⟨tid, n⟩ = none := by
      intro n
      rw [Db.worker?_deleteTaskRows, Option.filter_eq_none_iff]
      intro w hw
      have htaskId : w.taskId = tid := (hinv tid).rows n w hw
      simpa using htaskId
    simp only [Sys.taskView, hgone, Db.task?_deleteTaskRows, History.recordStore, ↓reduceIte]
    exact .delete (v := s.taskView leases tid) hpast
  · have hkept : ∀ n, (s.world.db.deleteTaskRows tid₀).worker? ⟨tid, n⟩ =
        s.world.db.worker? ⟨tid, n⟩ := by
      intro n
      rw [Db.worker?_deleteTaskRows]
      cases hw : s.world.db.worker? ⟨tid, n⟩ with
      | none => rfl
      | some w =>
        have htaskId : w.taskId = tid := (hinv tid).rows n w hw
        exact Option.filter_some_pos (by simpa [htaskId] using htid)
    refine step_of_eq ?_
    simp only [Sys.taskView, hkept, Db.task?_deleteTaskRows, htid, History.recordStore,
      ↓reduceIte]

end TaskSteps

end Flotilla
