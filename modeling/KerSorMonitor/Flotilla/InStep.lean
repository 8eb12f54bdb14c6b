import KerSorMonitor.Flotilla.Republished

/-!
# The sink is in step with the database

The dispatcher and the sweep publish what they change too, and the reconciliation at startup
comes before anything is shown. So after every operation of a process the sink shows each task
that it ever showed as the database has it.

Results:
1. `tick_runs`, `sweep_runs`, `reconcileRunning_runs`: the operations of the process itself.
2. `in_step`: after every run of operations, one after the other, the sink is in step.
-/

namespace Flotilla

namespace Sinks

open Keyed Threads Store QuietLemmas Account

variable {settings : Settings} {op : Op} {s : Published} {tid : TaskId}

/-! ## Transactions on several tasks -/

/-- A row without a worker is moved. -/
theorem Account.Good.moved {a : Account} (h : a.Good tid) {task task' : Task}
    (hrow : a.row = some task) (hidle : task.state ≠ .running ∧ task.state ≠ .stuck)
    (hstep : RowStep task task') (hstate : task'.state ≠ .paused) :
    { a with row := some task' }.Settled tid where
  known := h.known.moved ⟨Or.inr ⟨task, task', hrow, rfl, hstep⟩, rfl, rfl⟩
  manned := by
    intro wid handle hh
    obtain ⟨-, row, hsome, hlive⟩ := h.manned wid handle hh
    cases hrow.symm.trans hsome
    exact absurd hlive (not_or.mpr hidle)
  unpaused := by
    rintro row ⟨⟩
    exact hstate

/-- A transaction that moves rows without workers leaves the tasks that it moves to be published. -/
theorem pending_of_moves {ids : List TaskId} {f : Task → Task} {s' : Published} (hs : AllGood s)
    (hacc : ∀ tid, s'.account tid = { s.account tid with row := s'.world.db.task? tid })
    (hrows : ∀ tid, s'.world.db.task? tid =
      (s.world.db.task? tid).map fun t => if tid ∈ ids then f t else t)
    (hids : ∀ tid ∈ ids, ∃ task, s.world.db.task? tid = some task ∧
      (task.state ≠ .running ∧ task.state ≠ .stuck) ∧ RowStep task (f task) ∧
      (f task).state ≠ .paused) : Pending ids s' := by
  have hsame (tid : TaskId) (hnotin : tid ∉ ids) : s'.account tid = s.account tid := by
    rw [hacc tid]
    refine Account.ext ?_ rfl rfl rfl rfl
    refine (hrows tid).trans ?_
    simp only [hnotin, ↓reduceIte, Option.map_id']
    rfl
  refine ⟨fun tid => ?_, fun tid hnotin => hsame tid hnotin ▸ hs tid⟩
  by_cases hin : tid ∈ ids
  · obtain ⟨task, hrow, hidle, hstep, hstate⟩ := hids tid hin
    have hrow' : s'.world.db.task? tid = some (f task) := by
      rw [hrows tid, hrow]
      simp only [hin, ↓reduceIte, Option.map_some]
    rw [hacc tid, hrow']
    exact (hs tid).moved hrow hidle hstep hstate
  · exact hsame tid hin ▸ (hs tid).settled

/-- The claimed tasks wait to be published. -/
theorem claimQueuedTasks_runs (maxActive : Int) (hs : AllGood s) :
    Runs settings op (store (.claimQueuedTasks maxActive))
      (fun r s' => ∃ claimed, r = .ok claimed ∧ Pending (claimed.map Task.id) s') s := by
  refine call_runs fun env r s' ha _ hexec => ?_
  have hacc := account_store (q := .claimQueuedTasks maxActive) trivial hexec
  obtain ⟨db', htx, rfl⟩ := exec_store_of_isNone ha hexec
  obtain ⟨hret, -, -, hrows⟩ :=
    StoreLemmas.claimQueuedTasks_spec env.clock.now maxActive s.world.db
  rw [show Store.claimQueuedTasks env.clock.now maxActive s.world.db = (r, db') from htx]
    at hret hrows
  refine ⟨_, hret, ?_⟩
  rw [StoreLemmas.map_id_claimedRow]
  refine pending_of_moves hs hacc hrows fun tid hmem => ?_
  obtain ⟨task, hselected, rfl⟩ := List.mem_map.mp hmem
  obtain ⟨hrow, hqueued⟩ := StoreLemmas.mem_claimSelection hselected
  have hallowed : (TaskState.queued, TaskState.dispatching) ∈ allowed := by decide
  refine ⟨task, hrow, ?_, ⟨?_, rfl⟩, nofun⟩
  · rw [hqueued]
    exact ⟨nofun, nofun⟩
  · rw [hqueued]
    exact Or.inr hallowed

/-- A sweep publishes the tasks whose claim has expired. -/
theorem sweep_runs (hs : AllGood s) : Runs settings op sweep (fun _ => AllGood) s := by
  refine Safe.seq (Q := fun r s' => ∃ lost, r = .ok lost ∧ Pending lost s') ?_ ?_ ?_
  · refine call_runs fun env r s' ha _ hexec => ?_
    have hacc := account_store (q := .markStaleDispatchingLost) trivial hexec
    obtain ⟨db', htx, rfl⟩ := exec_store_of_isNone ha hexec
    obtain ⟨hret, -, -, hrows⟩ :=
      StoreLemmas.markStaleDispatchingLost_spec env.clock.now env.clock.cutoff s.world.db
    rw [show Store.markStaleDispatchingLost env.clock.now env.clock.cutoff s.world.db = (r, db')
      from htx] at hret hrows
    refine ⟨_, hret, pending_of_moves hs hacc hrows fun tid hmem => ?_⟩
    obtain ⟨task, hrow, hstate, -⟩ := StoreLemmas.mem_staleDispatching.mp hmem
    have hallowed : (TaskState.dispatching, TaskState.lost) ∈ allowed := by decide
    refine ⟨task, hrow, ?_, ⟨?_, rfl⟩, nofun⟩
    · rw [hstate]
      exact ⟨nofun, nofun⟩
    · rw [hstate]
      exact Or.inr hallowed
  · rintro lost s₁ ⟨_, hok, hpending⟩
    cases hok
    exact Safe.mono (publishTasks_runs hpending) fun _ _ h => h.2
  · rintro e s₁ ⟨_, he, -⟩
    cases he

/-! ## Preparation -/

/-- The runtime of a dispatch is one of the registry. -/
def Registered (d : Dispatch) : Prop := Runtime.get d.rt.name = .ok d.rt

theorem runtime_get_name {name : String} {rt : RuntimeAdapter} (h : Runtime.get name = .ok rt) :
    Runtime.get rt.name = .ok rt := by
  unfold Runtime.get at h
  split at h
  · next rt' hfind =>
    cases h
    have hall : ∀ rt ∈ Runtime.registry, Runtime.get rt.name = .ok rt := by decide
    exact hall rt (List.mem_of_find?_eq_some hfind)
  · cases h

theorem resolveDispatch_mute (task : Task) (wid : WorkerId) :
    (resolveDispatch settings task wid).All Mute := by
  refine Prog.All.bind (Prog.all_ofExcept _) fun rt => ?_
  split
  · trivial
  · refine Prog.All.bind (Prog.all_ofExcept _) fun adapter => ?_
    refine Prog.All.bind ((resolveHost_silent settings task).mono mute_of_silent) fun host => ?_
    obtain ⟨wsPath, sshHost⟩ := host
    dsimp only
    split
    · trivial
    · cases adapter with
      | none => trivial
      | some kind =>
        refine Prog.All.bind (Prog.all_call.mpr trivial) fun lock => ?_
        cases lock <;> trivial

theorem resolveDispatch_registered (task : Task) (wid : WorkerId) :
    (resolveDispatch settings task wid).Returns fun d => ∀ d' ∈ d, Registered d' := by
  unfold resolveDispatch
  cases hrt : Runtime.get task.runtime with
  | error e => trivial
  | ok rt =>
    rw [Prog.ofExcept_ok_bind]
    have hreg (wsPath : String) (sshHost : Option String) (lock : Option Lock) :
        ∀ d ∈ some (Dispatch.mk task wid rt wsPath sshHost lock), Registered d := by
      intro d hd
      obtain rfl := Option.mem_some.mp hd
      exact runtime_get_name hrt
    split
    · trivial
    · refine Prog.Returns.bind (Prog.returns_any _) fun adapter _ => ?_
      refine Prog.Returns.bind (Prog.returns_any _) fun host _ => ?_
      obtain ⟨wsPath, sshHost⟩ := host
      dsimp only
      split
      · trivial
      · cases adapter with
        | none => exact hreg _ _ _
        | some kind =>
          refine Prog.Returns.bind (Prog.returns_any _) fun lock _ => ?_
          cases lock with
          | none => exact fun _ hd => absurd hd (Option.not_mem_none _)
          | some lock => exact hreg _ _ _

theorem prepareAll_registered : ∀ tasks : List Task,
    (prepareAll settings tasks).Returns fun ds => ∀ d ∈ ds, Registered d
  | [] => fun _ hd => absurd hd List.not_mem_nil
  | task :: tasks => by
    have hclaimed (wid : WorkerId) :
        (prepareClaimed settings task wid).Returns fun d => ∀ d' ∈ d, Registered d' := by
      refine Prog.Returns.bind (resolveDispatch_registered task wid) fun d hd => ?_
      cases d with
      | some d => exact hd
      | none =>
        exact Prog.Returns.bind (Prog.returns_any _) fun _ _ =>
          Prog.Returns.bind (Prog.returns_any _) fun _ _ => hd
    have hprepare : (prepare settings task).Returns fun d => ∀ d' ∈ d, Registered d' := by
      refine Prog.Returns.bind (Prog.returns_any _) fun wid _ => ?_
      refine Prog.Returns.bind (hclaimed wid).attempt fun r hr => ?_
      cases r with
      | ok d => exact hr d rfl
      | error exc =>
        exact Prog.Returns.bind (Prog.returns_any _) fun _ _ => fun _ hd =>
          absurd hd (Option.not_mem_none _)
    refine Prog.Returns.bind hprepare fun d hd => ?_
    refine Prog.Returns.bind (prepareAll_registered tasks) fun ds hds => fun d' hd' => ?_
    rcases List.mem_append.mp hd' with hmem | hmem
    · exact hd d' (Option.mem_toList.mp hmem)
    · exact hds d' hmem

/-- A claim that is given up is published. -/
theorem releaseClaim_settled {target : String} (htarget : target = "QUEUED" ∨ target = "FAILED")
    {a a' : Account} {r : Except PyErr Bool} (hs : a.Good tid)
    (h : a.Stated target (some [.dispatching]) r a') : a'.Settled tid := by
  rcases h.moved with ⟨rfl, -⟩ | ⟨-, task, st, hrow, hexp, htr, hmoved⟩
  · exact hs.settled
  · have hdispatching : task.state = .dispatching := List.mem_singleton.mp (hexp _ rfl)
    have hstate : st ≠ .paused := by
      rintro rfl
      have hname := (transition_eq_ok htr).1
      rcases htarget with rfl | rfl <;> revert hname <;> decide
    obtain ⟨now, rfl⟩ := hmoved
    refine hs.moved hrow ?_ ⟨(transition_eq_ok htr).2, rfl⟩ hstate
    rw [hdispatching]
    exact ⟨nofun, nofun⟩

theorem schedulerEvent_turns (tid' : TaskId) {type : String} (payload : JsonObj)
    (htype : type ≠ "status") :
    Turns settings op tid (schedulerEvent tid' type payload)
      (fun r a => r = .ok () ∧ a = s.account tid) s :=
  Turns.ignoring (Turns.of_mute (recordEvent_mute payload htype))

theorem finishFailedClaim_turns {task : Task} (hid : task.id = tid) (reason : String)
    (retryable : Bool) (hs : (s.account tid).Good tid) :
    Turns settings op tid (finishFailedClaim task reason retryable)
      (fun r a => r = .ok () ∧ a.Good tid) s := by
  subst hid
  have htarget : (if retryable then "QUEUED" else "FAILED") = "QUEUED" ∨
      (if retryable then "QUEUED" else "FAILED") = "FAILED" := by
    cases retryable
    · exact Or.inr rfl
    · exact Or.inl rfl
  refine Turns.attempt_seq (releaseTaskClaim_turns _) fun released s₁ hreleased => ?_
  refine Turns.done_seq (schedulerEvent_turns _ _ (by decide)) fun s₂ hacc => ?_
  exact publishTask_turns (hacc ▸ releaseClaim_settled htarget hs hreleased)

theorem newWorkerId_turns :
    Turns settings op tid (.call (.newWorkerId tid))
      (fun r a => (∃ wid, r = .ok wid) ∧ a = s.account tid) s := by
  refine call_runs fun env r s' _ _ hexec => ?_
  have hacc := account_of_mute (a := .newWorkerId tid) trivial hexec
  cases hexec
  exact ⟨⟨⟨_, rfl⟩, hacc _⟩, fun tid' _ => hacc tid'⟩

/-- A round of the preparation leaves its task good, and does not raise. -/
theorem prepare_turns {task : Task} (hid : task.id = tid) (hs : (s.account tid).Good tid) :
    Turns settings op tid (prepare settings task) (fun r a => (∃ d, r = .ok d) ∧ a.Good tid) s := by
  subst hid
  refine Turns.value_seq newWorkerId_turns fun wid s₁ hacc => ?_
  rw [← hacc] at hs
  refine Turns.attempt_seq (Q := fun _ => Account.Good task.id) ?_ fun prepared s₂ hs₂ => ?_
  · refine Turns.mute_seq (resolveDispatch_mute task wid) (fun d s₂ hacc => ?_) fun _ => hs
    rw [← hacc] at hs
    cases d with
    | some d => exact Turns.ret hs
    | none =>
      -- the claim is given up, and the task is published as it is now
      refine Turns.seq (releaseTaskClaim_turns _) (fun _ s₃ hst => ?_) fun e a hst => ?_
      · exact Turns.done_seq (publishTask_turns (releaseClaim_settled (Or.inl rfl) hs hst))
          fun s₄ h => Turns.ret h
      · -- a claim that is not released leaves the task as it was shown
        obtain ⟨hsame, -⟩ := hst.moved.resolve_right fun h => (by cases h.1)
        exact hsame ▸ hs
  · cases prepared with
    | ok d => exact Turns.ret ⟨⟨d, rfl⟩, hs₂⟩
    | error exc =>
      exact Turns.done_seq (finishFailedClaim_turns rfl _ _ hs₂) fun s₃ h =>
        Turns.ret ⟨⟨none, rfl⟩, h⟩

theorem prepareAll_runs : ∀ {tasks : List Task} {s : Published}, AllGood s →
    Runs settings op (prepareAll settings tasks) (fun r s' => (∃ ds, r = .ok ds) ∧ AllGood s') s
  | [], _, hs => ⟨⟨_, rfl⟩, hs⟩
  | task :: tasks, s, hs => by
    refine Safe.seq (prepare_turns rfl (hs task.id)) (fun d s₁ hs₁ => ?_) ?_
    · have hgood : AllGood s₁ := (hs₁.mono fun _ h => h.2).good fun tid' _ => hs tid'
      refine Safe.seq (prepareAll_runs hgood) (fun ds s₂ h => ⟨⟨_, rfl⟩, h.2⟩) ?_
      rintro e s₂ ⟨⟨x, hx⟩, -⟩
      cases hx
    · rintro e s₁ ⟨⟨⟨x, hx⟩, -⟩, -⟩
      cases hx

/-! ## The observation after an activation -/

theorem attempted_turns {α : Type} {p : Program α} (hp : p.All Mute) :
    Turns settings op tid p.attempt (fun r a => (∃ x, r = .ok x) ∧ a = s.account tid) s :=
  Turns.attempt (Turns.mono (Turns.of_mute hp) fun r _ ha => ⟨⟨r, rfl⟩, ha⟩)

/-- First what does not raise and changes no account. -/
theorem Turns.sure_seq {α β : Type} {p : Program α} {f : α → Program β}
    (h : Turns settings op tid p (fun r a => (∃ x, r = .ok x) ∧ a = s.account tid) s)
    (hf : ∀ x s', s'.account tid = s.account tid → Turns settings op tid (f x)
      (fun r a => (∃ y, r = .ok y) ∧ a = s'.account tid) s') :
    Turns settings op tid (p >>= f) (fun r a => (∃ y, r = .ok y) ∧ a = s.account tid) s := by
  refine Turns.value_seq h fun x s' hacc => ?_
  exact Turns.mono (hf x s' hacc) fun _ _ ha => ⟨ha.1, ha.2.trans hacc⟩

theorem observeRemote_turns (wid : Option WorkerId) (h : WorkerHandle) (rt : RuntimeAdapter) :
    Turns settings op tid (observeRemote wid h rt)
      (fun r a => (∃ x, r = .ok x) ∧ a = s.account tid) s := by
  refine Turns.sure_seq (attempted_turns (Prog.all_call.mpr trivial)) fun obs s₁ _ => ?_
  dsimp only
  split
  · refine Turns.sure_seq (attempted_turns ((mineRemote_silent wid h).mono mute_of_silent))
      fun mined s₂ _ => ?_
    split <;> exact Turns.ret ⟨⟨_, rfl⟩, rfl⟩
  · exact Turns.ret ⟨⟨_, rfl⟩, rfl⟩

theorem addActivity_turns (wid : Option WorkerId) (h : WorkerHandle) (record : JsonObj) :
    Turns settings op tid (addActivity wid h record)
      (fun r a => (∃ x, r = .ok x) ∧ a = s.account tid) s := by
  refine Turns.sure_seq (attempted_turns ((mineLocal_silent wid h).mono mute_of_silent))
    fun mined s₁ _ => ?_
  split
  · refine Turns.sure_seq (attempted_turns (Prog.all_call.mpr trivial)) fun activity s₂ _ => ?_
    split <;> exact Turns.ret ⟨⟨_, rfl⟩, rfl⟩
  · exact Turns.ret ⟨⟨_, rfl⟩, rfl⟩

/-- In a `tick` the status file can be read. -/
theorem observeLocal_turns (htick : op.isTick = true) (wid : Option WorkerId) (h : WorkerHandle)
    (rt : RuntimeAdapter) : Turns settings op tid (observeLocal settings wid h rt)
      (fun r a => (∃ x, r = .ok x) ∧ a = s.account tid) s := by
  refine Safe.seq (Q := fun r s' => (∃ file, r = .ok file ∧
    (loadStatus settings.limits file).isOk = true) ∧ s' = s) ?_ ?_ ?_
  · refine call_runs fun env r s' _ hspared hexec => ?_
    cases hexec
    exact ⟨⟨_, rfl, by simpa [spares, htick] using hspared⟩, rfl⟩
  · rintro file s₁ ⟨⟨_, hok, hload⟩, rfl⟩
    cases hok
    cases hstatus : loadStatus settings.limits file with
    | error e =>
      rw [hstatus] at hload
      cases hload
    | ok status =>
      rw [Prog.ofExcept_ok_bind]
      refine Turns.sure_seq ?_ fun candidates s₂ _ => ?_
      · refine call_runs fun env r s' _ hspared hexec => ?_
        have hacc := account_of_mute (a := .candidateCount h.workspace) trivial hexec
        refine ⟨⟨?_, hacc tid⟩, fun tid' _ => hacc tid'⟩
        obtain rfl : (World.exec settings env (.candidateCount h.workspace) s₁.world).1 = r :=
          congrArg Prod.fst hexec
        unfold World.exec Env.outside
        rw [show env.raises = none by simpa [spares, htick] using hspared]
        exact ⟨_, rfl⟩
      · refine Turns.sure_seq (attempted_turns (Prog.all_call.mpr trivial)) fun obs s₃ _ => ?_
        dsimp only
        split
        · exact Turns.sure_seq (addActivity_turns wid h _) fun _ _ _ => Turns.ret ⟨⟨_, rfl⟩, rfl⟩
        · exact Turns.ret ⟨⟨_, rfl⟩, rfl⟩
  · rintro e s₁ ⟨⟨_, he, -⟩, -⟩
    cases he

/-- A status that is recorded is published. -/
theorem recordAndPublish_turns (record : JsonObj) (hrow : (s.account tid).row ≠ none)
    (hs : (s.account tid).Settled tid) :
    Turns settings op tid (recordEvent tid "status" record >>= fun _ =>
      .call (.publish (.current tid (some record))) >>= fun _ => pure record)
      (fun _ => Account.Good tid) s := by
  refine Turns.done_seq (recordStatus_turns record hrow) fun s₁ hacc => ?_
  have hset : (s₁.account tid).Settled tid := hacc ▸ hs.recorded record
  have hst : (s₁.account tid).status = record := by rw [hacc]
  exact Turns.done_seq (publishCurrent_turns hset hst.symm) fun s₂ h => Turns.ret h

/-- The observation after an activation records a status and publishes the task. -/
theorem observeDispatched_turns (htick : op.isTick = true) (wid : WorkerId) {h : WorkerHandle}
    (htid : h.taskId = tid) {rt : RuntimeAdapter} (hrt : Runtime.get h.backend = .ok rt)
    (hrow : (s.account tid).row ≠ none) (hs : (s.account tid).Settled tid) :
    Turns settings op tid (observeDispatched settings wid h)
      (fun r a => r = .ok () ∧ a.Good tid) s := by
  subst htid
  have hobserve : Turns settings op h.taskId (observeWorker settings (some wid) h rt)
      (fun r a => (∃ x, r = .ok x) ∧ a = s.account h.taskId) s := by
    unfold observeWorker
    split
    · exact observeRemote_turns _ _ _
    · exact observeLocal_turns htick _ _ _
  refine Turns.attempt_seq (Q := fun _ => Account.Good h.taskId) ?_
    fun _ s₁ hs₁ => Turns.ret ⟨rfl, hs₁⟩
  unfold observeAndRecord
  rw [hrt, Prog.ofExcept_ok_bind]
  refine Turns.value_seq hobserve fun observed s₁ hacc => ?_
  exact recordAndPublish_turns _ (hacc ▸ hrow) (hacc ▸ hs)

/-! ## Completion -/

/-- The handle was started by this dispatch. -/
def Started (d : Dispatch) (h : WorkerHandle) : Prop :=
  h.taskId = d.task.id ∧ Runtime.get h.backend = .ok d.rt

theorem releaseLock_turns (task : Task) (lock : Option Lock) :
    Turns settings op tid (releaseLock task lock) (fun r a => r = .ok () ∧ a = s.account tid) s := by
  cases lock with
  | none => exact Turns.ret ⟨rfl, rfl⟩
  | some lock =>
    refine Turns.ignoring (Turns.of_mute (Prog.All.bind (Prog.all_ofExcept _) fun _ => ?_))
    exact Prog.all_call.mpr trivial

/-- A start that raised. -/
theorem compensate_unstarted_turns {d : Dispatch} (hid : d.task.id = tid) (exc : PyErr)
    (hs : (s.account tid).Good tid) :
    Turns settings op tid (compensate d none exc) (fun r a => r = .ok () ∧ a.Good tid) s := by
  refine Turns.done_seq (p := cleanUp d none) (Turns.ret (Q := fun r a => r = .ok none ∧
    a = s.account tid) ⟨rfl, rfl⟩) fun s₁ hacc => ?_
  refine Turns.done_seq (p := dropHandle d none) (Turns.ret (Q := fun r a => r = .ok () ∧
    a = s₁.account tid) ⟨rfl, rfl⟩) fun s₂ hacc₂ => ?_
  refine Turns.done_seq (releaseLock_turns d.task d.lock) fun s₃ hacc₃ => ?_
  refine finishFailedClaim_turns hid _ _ ?_
  rw [hacc₃, hacc₂, hacc]
  exact hs

/-- An activation that failed: the worker is stopped and its handle is dropped. -/
theorem compensate_started_turns {d : Dispatch} (hid : d.task.id = tid) (handle : WorkerHandle)
    (exc : PyErr) (hs : { s.account tid with handle := none }.Good tid) :
    Turns settings op tid (compensate d (some handle) exc)
      (fun r a => r = .ok () ∧ a.Good tid) s := by
  have hcleanUp : Turns settings op tid (cleanUp d (some handle))
      (fun r a => r = .ok none ∧ a = s.account tid) s := by
    refine Turns.done_seq (v := .ok ()) (P := (· = s.account tid)) ?_ fun s₁ hacc =>
      Turns.ret ⟨rfl, hacc⟩
    refine Turns.attempt (call_runs fun env r s' _ hspared hexec => ?_)
    have hacc := account_of_mute (a := .stop handle (.dispatcher d.workerId)) trivial hexec
    refine ⟨⟨?_, hacc tid⟩, fun tid' _ => hacc tid'⟩
    obtain rfl : (s.world.stop handle env).1 = r := congrArg Prod.fst hexec
    -- the runtime that is asked to stop the worker answers
    have hstop : (s.world.stop handle env).1.isOk = true := hspared
    cases hr : (s.world.stop handle env).1 with
    | ok _ => rfl
    | error e =>
      rw [hr] at hstop
      cases hstop
  subst hid
  refine Turns.done_seq hcleanUp fun s₁ hacc => ?_
  refine Turns.done_seq (p := dropHandle d (some handle)) (unregister_turns _) fun s₂ hacc₂ => ?_
  refine Turns.done_seq (releaseLock_turns d.task d.lock) fun s₃ hacc₃ => ?_
  refine finishFailedClaim_turns rfl _ _ ?_
  rw [hacc₃, hacc₂, hacc]
  exact hs

theorem Account.Good.unmanned {a : Account} (h : a.Good tid) : { a with handle := none }.Good tid :=
  h.kept rfl rfl rfl rfl (manned_of_no_handle rfl)

theorem now_turns : Turns settings op tid (.call .now)
    (fun r a => (∃ now, r = .ok now) ∧ a = s.account tid) s := by
  refine call_runs fun env r s' _ _ hexec => ?_
  cases hexec
  exact .of_same (fun _ => rfl) ⟨⟨_, rfl⟩, rfl⟩

theorem register_turns (wid : Option WorkerId) (h : WorkerHandle) :
    Turns settings op tid (.call (.register tid wid h))
      (fun r a => r = .ok () ∧ a = { s.account tid with handle := some (wid, h) }) s := by
  refine call_runs fun env r s' _ _ hexec => ?_
  have hacc := account_register hexec
  cases hexec
  exact ⟨⟨rfl, (hacc tid).trans (if_pos rfl)⟩, fun tid' hne => (hacc tid').trans (if_neg hne)⟩

/-- The claim becomes a running row for the handle of the dispatch, or nothing changes. -/
theorem activateWorker_turns {d : Dispatch} {h : WorkerHandle} (hd : Started d h) (now : String)
    (hhandle : (s.account d.task.id).handle = some (some d.workerId, h))
    (hs : { s.account d.task.id with handle := none }.Good d.task.id) :
    Turns settings op d.task.id (store (.activateWorker d.task.id (d.worker h now) h.workspace))
      (fun r a => r = .ok true ∧ a.Settled d.task.id ∧ a.row ≠ none ∨
        r ≠ .ok true ∧ a = s.account d.task.id) s := by
  refine call_runs fun env r s' _ _ hexec => ?_
  have hrows := account_store (q := .activateWorker d.task.id (d.worker h now) h.workspace)
    trivial hexec
  rcases exec_store hexec with ⟨e, -, rfl, rfl⟩ | ⟨-, db', htx, rfl⟩
  · exact .of_same (fun _ => rfl) (Or.inr ⟨nofun, rfl⟩)
  rcases StoreLemmas.activateWorker_cases htx with
    ⟨rfl, hr⟩ | ⟨row, -, hrow, hdispatching, rfl, -, -, -, htask⟩
  · exact .of_same (fun _ => rfl) (Or.inr ⟨hr, rfl⟩)
  have hallowed : (TaskState.dispatching, TaskState.running) ∈ allowed := by decide
  have hstep : RowStep row { row with
      state := .running, workspacePath := some h.workspace
      updatedAt := env.clock.now } := ⟨by rw [hdispatching]; exact Or.inr hallowed, rfl⟩
  have hrow' := (htask d.task.id).trans (if_pos rfl)
  have hidle : row.state ≠ .running ∧ row.state ≠ .stuck := by
    rw [hdispatching]
    exact ⟨nofun, nofun⟩
  have hset := hs.moved hrow hidle hstep nofun
  refine ⟨Or.inl ⟨rfl, ?_, ?_⟩, fun tid' hne => ?_⟩
  · rw [hrows, hrow']
    refine ⟨⟨hset.known.nameless, hset.known.entry⟩, fun wid handle hh => ?_, hset.unpaused⟩
    -- the handle was registered just before, and its row is running now
    cases hhandle.symm.trans hh
    exact ⟨hd.1, _, rfl, Or.inl rfl⟩
  · rw [hrows, hrow']
    exact nofun
  · rw [hrows]
    exact Account.ext ((htask tid').trans (if_neg hne)) rfl rfl rfl rfl

/-- An activation registers the handle and makes the row running, or raises. -/
theorem activate_turns {d : Dispatch} (hid : d.task.id = tid) {h : WorkerHandle}
    (hd : Started d h) (hs : (s.account tid).Good tid) :
    Turns settings op tid (activate d h)
      (fun r a => r = .ok () ∧ a.Settled tid ∧ a.row ≠ none ∨
        (∃ e, r = .error e) ∧ { a with handle := none }.Good tid) s := by
  subst hid
  refine Turns.value_seq now_turns fun now s₁ hacc => ?_
  rw [← hacc] at hs
  refine Turns.done_seq (register_turns (some d.workerId) h) fun s₂ hacc₂ => ?_
  have hgood : { s₂.account d.task.id with handle := none }.Good d.task.id := by
    rw [hacc₂]
    exact hs.unmanned
  refine Turns.seq (activateWorker_turns hd now (by rw [hacc₂]) hgood) ?_ ?_
  · rintro owned s₃ (⟨hok, hset, hrow⟩ | ⟨hno, hacc₃⟩)
    · cases hok
      exact Turns.ret (Or.inl ⟨rfl, hset, hrow⟩)
    · -- the task has lost its claim: the handle stays until the compensation drops it
      cases owned with
      | true => exact absurd rfl hno
      | false => exact .of_same (fun _ => rfl) (Or.inr ⟨⟨_, rfl⟩, hacc₃ ▸ hgood⟩)
  · rintro e a (⟨he, -⟩ | ⟨-, hacc₃⟩)
    · cases he
    · exact Or.inr ⟨⟨e, rfl⟩, hacc₃ ▸ hgood⟩

/-- A round of the completion leaves its task good. -/
theorem completeDispatch_turns (htick : op.isTick = true) {d : Dispatch} (hid : d.task.id = tid)
    {started : Except PyErr WorkerHandle} (hd : ∀ h, started = .ok h → Started d h)
    (hs : (s.account tid).Good tid) :
    Turns settings op tid (completeDispatch settings d started)
      (fun r a => (∃ n, r = .ok n) ∧ a.Good tid) s := by
  have hfailed {handle : Option WorkerHandle} {exc : PyErr} {s₁ : Published}
      (h : Turns settings op tid (compensate d handle exc) (fun r a => r = .ok () ∧ a.Good tid) s₁) :
      Turns settings op tid (compensate d handle exc >>= fun _ => pure 0)
        (fun r a => (∃ n, r = .ok n) ∧ a.Good tid) s₁ :=
    Turns.done_seq h fun s₂ h => Turns.ret ⟨⟨0, rfl⟩, h⟩
  cases started with
  | error exc => exact hfailed (compensate_unstarted_turns hid exc hs)
  | ok h =>
    obtain ⟨htid, hrt⟩ := hd h rfl
    refine Turns.attempt_seq (activate_turns hid (hd h rfl) hs) fun activated s₁ hactivated => ?_
    rcases hactivated with ⟨rfl, hset, hrow⟩ | ⟨⟨e, rfl⟩, hgood⟩
    · refine Turns.done_seq (schedulerEvent_turns _ _ (by decide)) fun s₂ hacc => ?_
      exact Turns.done_seq (observeDispatched_turns htick d.workerId (htid.trans hid) hrt
        (hacc ▸ hrow) (hacc ▸ hset)) fun s₃ h => Turns.ret ⟨⟨1, rfl⟩, h⟩
    · exact hfailed (compensate_started_turns hid h e hgood)

/-- A start that returns gives the handle of its own dispatch. -/
theorem asCompleted_runs {pending : List Dispatch} (hreg : ∀ d ∈ pending, Registered d) :
    Runs settings op (.call (.asCompleted pending)) (fun r s' => Same s s' ∧ ∀ i started,
      r = .ok (i, started) → ∃ d, pending[i]? = some d ∧ ∀ h, started = .ok h → Started d h) s := by
  refine call_runs fun env r s' _ _ hexec => ?_
  refine ⟨account_of_mute (a := .asCompleted pending) trivial hexec, fun i started hr => ?_⟩
  obtain rfl : (World.exec settings env (.asCompleted pending) s.world).1 = r :=
    congrArg Prod.fst hexec
  unfold World.exec at hr
  cases hget : pending[env.pick % pending.length]? with
  | none =>
    simp only [hget] at hr
    cases hr
  | some d =>
    simp only [hget, Except.ok.injEq, Prod.mk.injEq] at hr
    obtain ⟨rfl, rfl⟩ := hr
    refine ⟨d, hget, fun h hstart => ?_⟩
    unfold World.startWorker at hstart
    split at hstart
    · cases hstart
    · cases hstart
      exact ⟨rfl, hreg d (List.mem_of_getElem? hget)⟩

theorem completeAll_runs (htick : op.isTick = true) : ∀ {n : Nat} {ds : List Dispatch}
    {s : Published}, (∀ d ∈ ds, Registered d) → AllGood s →
    Runs settings op (completeAll settings n ds) (fun _ => AllGood) s
  | 0, _, _, _, hs => hs
  | _ + 1, [], _, _, hs => hs
  | n + 1, d :: ds, s, hreg, hs => by
    refine Safe.seq (asCompleted_runs hreg) (fun r s₁ h => ?_) fun e s₁ h tid => h.1 tid ▸ hs tid
    -- the starts complete in any order
    obtain ⟨i, started⟩ := r
    obtain ⟨hsame, hstarted⟩ := h
    obtain ⟨d', hget, hd'⟩ := hstarted i started rfl
    have hgood : AllGood s₁ := fun tid => hsame tid ▸ hs tid
    dsimp only
    rw [hget, Option.getD_some]
    refine Safe.seq (completeDispatch_turns htick rfl hd' (hgood d'.task.id))
      (fun count s₂ h => ?_) ?_
    · have hgood₂ : AllGood s₂ := (h.mono fun _ h => h.2).good fun tid' _ => hgood tid'
      have hrest : ∀ d'' ∈ (d :: ds).eraseIdx i, Registered d'' := fun d'' hmem =>
        hreg d'' (List.mem_of_mem_eraseIdx hmem)
      exact Safe.seq (completeAll_runs htick hrest hgood₂) (fun rest s₃ h => h) fun _ s₃ h => h
    · rintro e s₂ ⟨⟨⟨x, hx⟩, -⟩, -⟩
      cases hx

/-- A dispatcher publishes its claims, and each task as it leaves it. -/
theorem tick_runs (htick : op.isTick = true) (hs : AllGood s) :
    Runs settings op (tick settings) (fun _ => AllGood) s := by
  have hdirs : Runs settings op (.call (.makeDirs settings.workspacesRoot)) (fun _ => AllGood) s :=
    Safe.mono (mute_runs (Prog.all_call.mpr trivial)) fun _ s₁ h tid => h tid ▸ hs tid
  refine Safe.seq hdirs (fun _ s₁ hs => ?_) fun _ s₁ h => h
  refine Safe.seq (claimQueuedTasks_runs settings.maxWorkers hs) (fun claimed s₂ h => ?_) ?_
  · obtain ⟨_, hok, hpending⟩ := h
    cases hok
    refine Safe.seq (publishTasks_runs hpending) (fun _ s₃ h => ?_) fun _ s₃ h => h.2
    refine Safe.seq (Safe.and_returns (prepareAll_registered claimed) (prepareAll_runs h.2))
      (fun prepared s₄ h => ?_) fun _ s₄ h => h.1.2
    exact completeAll_runs htick (h.2 prepared rfl) h.1.2
  · rintro e s₂ ⟨_, he, -⟩
    cases he

/-! ## Reconciliation -/

/-- The task was not shown yet. -/
structure Account.Unshown (tid : TaskId) (a : Account) : Prop where
  settled : a.Settled tid
  never : a.ever = false

theorem Account.Unshown.good {a : Account} (h : a.Unshown tid) : a.Good tid where
  nameless := h.settled.known.nameless
  manned := h.settled.manned
  unpaused := h.settled.unpaused
  shown := by
    intro pid
    rw [h.never]
    cases hentry : a.entry pid with
    | none => rfl
    | some v =>
      have hever := (h.settled.known.entry pid v hentry).1
      rw [h.never] at hever
      cases hever

theorem markLost_turns (wid : Option WorkerId) (reason : String) (stopRuntime : Bool)
    (hs : (s.account tid).Unshown tid) :
    Turns settings op tid (markLost tid wid reason stopRuntime) (fun _ => Unshown tid) s := by
  have hretired {r : Except PyErr (Option String)} {a : Account}
      (h : Retired tid "LOST" (s.account tid) r a) : a.Unshown tid :=
    ⟨h.settled hs.settled, h.moved.ever.trans hs.never⟩
  refine Turns.seq (retire_turns wid (Or.inr (by decide)) stopRuntime) (fun state s₁ h => ?_)
    fun _ _ h => hretired h
  cases state with
  | none => exact Turns.ret (hretired h)
  | some _ =>
    exact Turns.mono (Turns.of_mute (recordEvent_mute _ (by decide))) fun _ _ ha => ha ▸ hretired h

theorem findWindow_mute (tid : TaskId) (host : Option String) :
    (findWindow settings tid host).All Mute := by
  refine Prog.All.bind (Prog.all_call.mpr trivial) fun window => ?_
  induction windowNames window tid with
  | nil => trivial
  | cons window names ih =>
    refine Prog.All.bind (Prog.all_call.mpr trivial) fun pane => ?_
    cases pane with
    | none => trivial
    | some pane =>
      dsimp only
      split
      · trivial
      · exact ih

theorem reconcileHost_mute (task : Task) : (reconcileHost task).All Mute := by
  unfold reconcileHost
  split
  · trivial
  · exact Prog.All.bind (Prog.all_call.mpr ⟨trivial, trivial⟩) fun _ => trivial

/-- A handle is registered for a task that is running or stuck. -/
theorem reattach_turns {task : Task} (hrow : (s.account task.id).row = some task)
    (hlive : task.state.isLive = true) (hs : (s.account task.id).Unshown task.id)
    (workspace : String) (host : Option String) (wid : Option WorkerId)
    (found : Option (String × String)) :
    Turns settings op task.id (reattach settings task workspace host wid found)
      (fun _ => Unshown task.id) s := by
  cases found with
  | none => exact Turns.ret hs
  | some found =>
    obtain ⟨window, pane⟩ := found
    unfold reattach
    dsimp only
    split
    · exact Turns.seq (markLost_turns wid _ _ hs) (fun _ _ h => Turns.ret h) fun _ _ h => h
    · -- the pane is there, and the task is running or stuck
      refine Turns.done_seq (register_turns wid _) fun s₁ hacc => ?_
      have hs₁ : (s₁.account task.id).Unshown task.id := by
        rw [hacc]
        refine ⟨⟨⟨hs.settled.known.nameless, hs.settled.known.entry⟩, fun wid' h hh => ?_,
          hs.settled.unpaused⟩, hs.never⟩
        cases hh
        obtain ⟨row, hrow', hstate⟩ := hs.settled.unpaused.open hrow hlive
        exact ⟨rfl, row, hrow', hstate⟩
      cases wid with
      | none =>
        exact Turns.seq (markLost_turns none _ _ hs₁) (fun _ _ h => Turns.ret h) fun _ _ h => h
      | some _ => exact Turns.ret hs₁

theorem reconcileTask_turns {task : Task} (hrow : (s.account task.id).row = some task)
    (hs : (s.account task.id).Unshown task.id) :
    Turns settings op task.id (reconcileTask settings task) (fun _ => Unshown task.id) s := by
  have hlost {s : Published} (hs : (s.account task.id).Unshown task.id) (wid : Option WorkerId)
      (reason : String) : Turns settings op task.id
        (markLost task.id wid reason false >>= fun _ => pure 0) (fun _ => Unshown task.id) s :=
    Turns.seq (markLost_turns wid reason false hs) (fun _ _ h => Turns.ret h) fun _ _ h => h
  unfold reconcileTask
  split
  · exact Turns.ret hs
  · next hlive =>
    refine Turns.mute_seq (Prog.all_call.mpr ⟨trivial, trivial⟩) (fun wid s₁ hacc => ?_) fun _ => hs
    rw [← hacc] at hs hrow
    split
    · exact hlost hs _ _
    · split
      · exact hlost hs _ _
      · refine Turns.mute_seq (reconcileHost_mute task) (fun host s₂ hacc => ?_) fun _ => hs
        rw [← hacc] at hs hrow
        cases host with
        | none => exact hlost hs _ _
        | some host =>
          refine Turns.mute_seq (findWindow_mute task.id host) (fun found s₃ hacc => ?_) fun _ => hs
          rw [← hacc] at hs hrow
          exact reattach_turns hrow (by simpa using hlive) hs _ _ _ _

/-- A round changes its own task only, and the rows have different ids. -/
theorem reconcileAll_runs : ∀ {tasks : List Task} {s : Published}, (tasks.map Task.id).Nodup →
    (∀ tid, (s.account tid).Unshown tid) → (∀ task ∈ tasks, (s.account task.id).row = some task) →
    Runs settings op (reconcileAll settings tasks) (fun _ s' => ∀ tid, (s'.account tid).Unshown tid) s
  | [], _, _, hs, _ => hs
  | task :: tasks, s, hnodup, hs, hrows => by
    obtain ⟨hnotin, hnodup⟩ := List.nodup_cons.mp hnodup
    have hround : Turns settings op task.id (reconcileTask settings task)
        (fun _ => Unshown task.id) s :=
      reconcileTask_turns (hrows task List.mem_cons_self) (hs task.id)
    have hall {s₁ : Published} (h : Around s task.id (Unshown task.id) s₁) :
        ∀ tid, (s₁.account tid).Unshown tid := by
      intro tid
      by_cases heq : tid = task.id
      · exact heq ▸ h.own
      · exact h.other tid heq ▸ hs tid
    refine Safe.seq hround (fun n s₁ h => ?_) fun _ s₁ h => hall h
    refine Safe.seq (reconcileAll_runs hnodup (hall h) fun task' hmem => ?_) (fun m s₂ h => h)
      fun _ s₂ h => h
    rw [h.other _ fun heq => hnotin (heq ▸ List.mem_map_of_mem hmem)]
    exact hrows task' (List.mem_cons_of_mem _ hmem)

/-- The reconciliation shows nothing. -/
theorem reconcileRunning_runs (hs : ∀ tid, (s.account tid).Unshown tid) :
    Runs settings op (reconcileRunning settings) (fun _ => AllGood) s := by
  refine Safe.seq (Q := fun r s' => r = .ok (Store.allTasks s.world.db) ∧ s' = s) ?_ ?_ ?_
  · refine call_runs fun env r s' ha _ hexec => ?_
    obtain ⟨db', htx, rfl⟩ := exec_store_of_isNone ha hexec
    cases htx
    exact ⟨rfl, rfl⟩
  · rintro tasks s₁ ⟨hok, rfl⟩
    cases hok
    have hperm := List.perm_insertionSort (fun a b : Task => a.id ≤ b.id) s₁.world.db.task.rows
    refine Safe.mono (reconcileAll_runs ((hperm.map Task.id).nodup_iff.mpr s₁.world.db.task.nodup) hs
      fun task hmem => Table.get?_eq_some_iff.mpr ⟨hperm.mem_iff.mp hmem, rfl⟩) fun _ s₂ h tid => ?_
    exact (h tid).good
  · rintro e s₁ ⟨he, -⟩
    cases he

/-! ## Runs -/

/-- The operator does not move rows behind the process, and the reconciliation comes before
anything is shown. -/
def mayStart (s : Published) : Op → Bool
  | .recover _ => false
  | .reconcileRunning => s.ever.isEmpty
  | _ => true

theorem mute_allGood {p : Program Unit} (hp : p.All Mute) (hs : AllGood s) :
    Runs settings op p (fun _ => AllGood) s :=
  Safe.mono (mute_runs hp) fun _ _ h tid => h tid ▸ hs tid

/-- Every operation leaves every task shown as it is. -/
theorem program_runs (op : Op) (hop : mayStart s op = true) (hs : AllGood s) :
    Runs settings op (op.program settings) (fun _ => AllGood) s := by
  have hdiscard {α : Type} {p : Program α} (h : Runs settings op p (fun _ => AllGood) s) :
      Runs settings op (discard p) (fun _ => AllGood) s :=
    Safe.seq h (fun _ _ h => h) fun _ _ h => h
  cases op with
  | createProject p =>
    exact mute_allGood (Prog.All.bind (Prog.all_call.mpr ⟨trivial, trivial⟩) fun _ => trivial) hs
  | createHost h => exact mute_allGood (Prog.all_call.mpr ⟨trivial, trivial⟩) hs
  | createTasks pid tasks => exact hdiscard (createTasks_runs pid tasks hs)
  | deleteTask tid => exact deleteTask_runs tid hs
  | workerPing authorization body => exact workerPing_runs authorization body hs
  | actuate tid action payload => exact actuateTask_runs tid action payload hs
  | tick => exact hdiscard (tick_runs rfl hs)
  | sweep => exact sweep_runs hs
  | observeRunning => exact hdiscard (observeRunning_runs hs)
  | recover tid => cases hop
  | reconcileRunning =>
    refine hdiscard (reconcileRunning_runs fun tid => ⟨(hs tid).settled, ?_⟩)
    unfold Published.account
    rw [List.isEmpty_iff.mp hop]
    rfl

theorem boot_allGood {db : Db} (hdb : ∀ task ∈ db.task.rows, task.state ≠ .paused) :
    AllGood (.boot db) := by
  intro tid
  refine ⟨fun _ => rfl, fun pid => rfl, fun wid h hh => (by cases hh), fun task hrow => ?_⟩
  exact hdb task (Table.get?_eq_some_iff.mp hrow).1

/-- In a process that starts with no paused task, in which operations are performed one after the
other, SQLite fails in activations only, workers can be stopped after a failed activation and
observed after one that succeeded: after every operation, whatever else fails, the sink shows every
task that it ever showed as the database has it, and no other. -/
theorem in_step {settings : Settings} {db : Db}
    (hdb : ∀ task ∈ db.task.rows, task.state ≠ .paused) {calls : List (Op × List Env)}
    (hok : Machine.Along ((publishing settings).serve 0)
      (fun s call => mayStart s call.1 = true ∧
        (publishing settings).Allowed 0 (Allow settings) s call)
      calls (.boot db)) :
    (Machine.run ((publishing settings).serve 0) calls (.boot db)).InStep := by
  have hgood : AllGood (Machine.run ((publishing settings).serve 0) calls (.boot db)) :=
    System.run_performed (fun op s hop hs => program_runs op hop hs) hok (boot_allGood hdb)
  exact fun tid pid => (hgood tid).shown pid

/-- A heartbeat gets one task stuck and the other one is stopped; both are deleted. -/
def twoTaskCalls : List (Op × List Env) :=
  [(.createProject { id := "p", name := "P" }, 1),
   (.createTasks "p" (["a", "b"].map fun id => { id := id, name := "n", spec := "s" }), 9),
   (.tick, 34), (.workerPing none { taskId := "a", state := "stuck" }, 11), (.observeRunning, 19),
   (.actuate "b" "stop" (.obj []), 14), (.deleteTask "a", 13)].map
    fun call => (call.1, List.replicate call.2 {})

set_option maxRecDepth 10000 in
theorem in_step_twoTaskCalls :
    (Machine.run ((publishing {}).serve 0) twoTaskCalls (.boot Db.init)).InStep :=
  in_step (fun _ h => absurd h List.not_mem_nil) (by decide +kernel)

set_option maxRecDepth 10000 in
example : ["a", "b"].map (fun tid => (Dict.get?
    ((Machine.run ((publishing {}).serve 0) twoTaskCalls (.boot Db.init)).latest "p") tid).map
      fun v => v.body.state) = [none, some .cancelled] := by decide +kernel

end Sinks

end Flotilla
