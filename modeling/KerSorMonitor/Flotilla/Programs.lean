import KerSorMonitor.Flotilla.Quiet

/-!
# Which actions the programs perform

Only `tick` claims tasks, draws worker ids, starts and activates workers and gives claims up,
and only `tick` and the reconciliation at startup register handles. Every other operation is
a program of the remaining actions. `retire` alone touches the set of tasks under retirement.

Results:
1. `retireBody_ofRetirement`: what a retirement does while it holds its task.
2. `program_undispatched`: what the operations other than `tick` do.
3. `tick_unretiring`: `tick` retires nothing.
4. `program_submitless`: only a submission submits tasks.
-/

namespace Flotilla

open Keyed Threads
open Prog (call)

/-- The states in which a worker is retired. -/
def finalStates : List String := ["DONE", "FAILED", "CANCELLED", "LOST"]

/-- The transactions of the programs that dispatch nothing; tasks are submitted only if `submits`.
A row is moved out of `QUEUED` only when a worker is finished. -/
def Transaction.Undispatched (submits : Prop) : {α : Type} → Transaction α → Prop
  | _, .claimQueuedTasks _ => False
  | _, .releaseTaskClaim _ _ => False
  | _, .activateWorker _ _ _ => False
  | _, .createWorker _ => False
  | _, .createTasks _ => submits
  | _, .setTaskState _ _ expected => (expected.any fun set => !set.contains .queued) = true
  | _, .finishWorker _ _ target _ => target ∈ finalStates
  | _, _ => True

/-- The actions of the programs that dispatch nothing. -/
def Act.Undispatched (submits : Prop) : {β : Type} → Act β → Prop
  | _, .store q => q.Undispatched submits
  | _, .newWorkerId _ => False
  | _, .register _ _ _ => False
  | _, .unregister _ (.dispatcher _) => False
  | _, .acquire _ _ _ => False
  | _, .asCompleted _ => False
  | _, _ => True

theorem Act.Quiet.undispatched {submits : Prop} {β : Type} (a : Act β) (h : a.Quiet) :
    a.Undispatched submits := by
  cases a with
  | store q =>
    cases q with
    | claimQueuedTasks | releaseTaskClaim | activateWorker | createWorker | createTasks
    | setTaskState | finishWorker => exact h.elim
    | _ => trivial
  | newWorkerId | register | unregister | acquire | asCompleted => exact h.elim
  | _ => trivial

/-- The actions of a retirement while it holds its task. -/
def Act.OfRetirement : {β : Type} → Act β → Prop
  | _, .store (.finishWorker _ _ target _) => target ∈ finalStates
  | _, .store (.endWorker _) => True
  | _, .stop _ (.retirement _ _) => True
  | _, .unregister _ (.retirement _ _) => True
  | _, .releaseId _ _ _ => True
  | _, a => a.Quiet

/-- A dispatcher begins and ends no retirement; it submits nothing, and gives a task another state
only as its claim allows. -/
def Act.Unretiring : {β : Type} → Act β → Prop
  | _, .store (.createTasks _) => False
  | _, .store (.setTaskState _ _ _) => False
  | _, .store (.finishWorker _ _ _ _) => False
  | _, .beginRetire _ => False
  | _, .endRetire _ => False
  | _, _ => True

/-- What the reconciliation at startup does: it registers the handles of the workers that it finds. -/
def Act.Reattaching : {β : Type} → Act β → Prop
  | _, .register _ _ _ => True
  | _, a => a.Undispatched False

/-- An action that submits no tasks. -/
def Act.Submitless : {β : Type} → Act β → Prop
  | _, .store (.createTasks _) => False
  | _, _ => True

theorem Act.Undispatched.reattaching {β : Type} (a : Act β) (h : a.Undispatched False) :
    a.Reattaching := by
  cases a with
  | register => trivial
  | _ => exact h

theorem Act.Quiet.ofRetirement {β : Type} (a : Act β) (h : a.Quiet) : a.OfRetirement := by
  cases a with
  | store q =>
    cases q with
    | finishWorker => exact h.elim
    | endWorker => trivial
    | _ => exact h
  | stop | unregister | releaseId => exact h.elim
  | _ => exact h

theorem Act.Quiet.unretiring {β : Type} (a : Act β) (h : a.Quiet) : a.Unretiring := by
  cases a with
  | store q =>
    cases q with
    | createTasks | setTaskState | finishWorker => exact h.elim
    | _ => trivial
  | beginRetire | endRetire => exact h.elim
  | _ => trivial

theorem Act.OfRetirement.undispatched {submits : Prop} {β : Type} (a : Act β)
    (h : a.OfRetirement) : a.Undispatched submits := by
  cases a with
  | store q =>
    cases q with
    | claimQueuedTasks | releaseTaskClaim | activateWorker | createWorker | createTasks
    | setTaskState => exact h.elim
    | finishWorker => exact h
    | _ => trivial
  | unregister tid caller =>
    cases caller with
    | dispatcher wid => exact h.elim
    | _ => trivial
  | newWorkerId | register | acquire | asCompleted => exact h.elim
  | _ => trivial

namespace UndispatchedLemmas

open QuietLemmas

variable {submits : Prop}

theorem of_quiet {α : Type} {p : Program α} (h : p.All Act.Quiet) : p.All (Act.Undispatched submits) :=
  h.mono Act.Quiet.undispatched

theorem undispatched_bind {α β : Type} {p : Program α} {f : α → Program β}
    (hp : p.All (Act.Undispatched submits)) (hf : ∀ a, (f a).All (Act.Undispatched submits)) :
    (p >>= f).All (Act.Undispatched submits) := Prog.All.bind hp hf

theorem undispatched_call {α : Type} {a : Act α} (h : a.Undispatched submits) :
    (call a : Program α).All (Act.Undispatched submits) := Prog.all_call.mpr h

theorem undispatched_store {α : Type} {q : Transaction α} (h : q.Undispatched submits) :
    (store q).All (Act.Undispatched submits) := Prog.all_call.mpr h

/-! ## Retirement and actuation -/

theorem retireStuck_undispatched (tid : TaskId) : (retireStuck tid).All (Act.Undispatched submits) := by
  refine undispatched_bind (undispatched_store trivial) fun task => ?_
  cases task with
  | none => trivial
  | some task =>
    dsimp only
    split
    · trivial
    · exact undispatched_bind (undispatched_store rfl) fun _ => trivial

theorem ofRetirement_of_quiet {α : Type} {p : Program α} (h : p.All Act.Quiet) :
    p.All Act.OfRetirement := h.mono Act.Quiet.ofRetirement

theorem stopForRetire_ofRetirement (tid : TaskId) (wid : Option WorkerId) (stopRuntime : Bool)
    (handle : Option WorkerHandle) :
    (stopForRetire tid wid stopRuntime handle).All Act.OfRetirement := by
  unfold stopForRetire
  split
  · exact Prog.All.tryCatch (Prog.all_call.mpr trivial) fun _ =>
      ofRetirement_of_quiet (recordEvent_quiet _ _ _).ignoring
  · trivial

theorem releaseForRetire_ofRetirement (task : Task) (tid : TaskId) (worker : Option Worker) :
    (releaseForRetire task tid worker).All Act.OfRetirement := by
  unfold releaseForRetire
  split
  · trivial
  · split
    · refine Prog.All.tryCatch ?_ fun _ => ofRetirement_of_quiet (recordEvent_quiet _ _ _).ignoring
      exact Prog.All.bind (Prog.all_ofExcept _) fun _ => Prog.all_call.mpr trivial
    · trivial

theorem concludeRetire_ofRetirement (task : Task) (tid : TaskId) (wid : Option WorkerId)
    (worker : Option Worker) (result : Option String) :
    (concludeRetire task tid wid worker result).All Act.OfRetirement :=
  Prog.All.bind (releaseForRetire_ofRetirement task tid worker) fun _ =>
    Prog.All.bind (Prog.all_call.mpr trivial) fun _ => trivial

theorem gateTerminal_quiet (task : Task) (terminal : Option String)
    (handle : Option WorkerHandle) : (gateTerminal task terminal handle).All Act.Quiet := by
  unfold gateTerminal
  split
  · trivial
  · split
    · exact quiet_bind (quiet_of_silent (evaluationEvent_silent task handle)) fun _ => trivial
    · trivial

/-- The states that the evaluator leads to. -/
theorem evaluationOutcome_eq (name : String) (result : Except PyErr EvalResult) :
    (evaluationOutcome name result).1 = "DONE" ∨ (evaluationOutcome name result).1 = "FAILED" := by
  unfold evaluationOutcome
  cases result with
  | error exc => exact Or.inr rfl
  | ok result =>
    dsimp only
    split
    · exact Or.inl rfl
    · exact Or.inr rfl

theorem evaluationOutcome_final (name : String) (result : Except PyErr EvalResult) :
    (evaluationOutcome name result).1 ∈ finalStates := by
  rcases evaluationOutcome_eq name result with h | h <;> rw [h] <;> decide

theorem evaluationEvent_returns (task : Task) (handle : Option WorkerHandle) :
    (evaluationEvent task handle).Returns fun gated => gated.1 = "DONE" ∨ gated.1 = "FAILED" := by
  unfold evaluationEvent
  split
  · exact Or.inl rfl
  · exact Prog.Returns.bind (Prog.returns_any _) fun result _ =>
      Prog.Returns.bind (Prog.returns_any _) fun _ _ => evaluationOutcome_eq _ result

/-- The gate asks for no other state than the requested one, `DONE` and `FAILED`. -/
theorem gateTerminal_returns {N : String → Prop} (hdone : N "DONE") (hfailed : N "FAILED")
    (task : Task) {terminal : Option String} (hterminal : ∀ s, terminal = some s → N s)
    (handle : Option WorkerHandle) :
    (gateTerminal task terminal handle).Returns fun gated => ∀ s, gated.1 = some s → N s := by
  unfold gateTerminal
  split
  · exact fun s h => by cases h
  · split
    · refine Prog.Returns.bind (evaluationEvent_returns task handle) fun gated hgated => ?_
      rintro s ⟨⟩
      rcases hgated with h | h
      · exact h ▸ hdone
      · exact h ▸ hfailed
    · exact hterminal

/-- A task that is not terminal gets one of these states. -/
theorem gateTerminal_open {N : String → Prop} (hdone : N "DONE") (hfailed : N "FAILED")
    {task : Task} (hopen : task.state.isTerminal = false) {terminal : String} (hterminal : N terminal)
    (handle : Option WorkerHandle) :
    (gateTerminal task (some terminal) handle).Returns
      fun gated => ∃ s, gated.1 = some s ∧ N s := by
  unfold gateTerminal
  rw [if_neg (by simp [hopen])]
  split
  · refine Prog.Returns.bind (evaluationEvent_returns task handle) fun gated hgated => ⟨_, rfl, ?_⟩
    rcases hgated with h | h
    · exact h ▸ hdone
    · exact h ▸ hfailed
  · exact ⟨terminal, rfl, hterminal⟩

theorem nonEmpty?_eq_some {o : Option String} {s : String} (h : nonEmpty? o = some s) :
    o = some s := by
  unfold nonEmpty? at h
  split at h
  · split at h
    · cases h
    · exact h
  · cases h

theorem endWorker?_ofRetirement (wid : Option WorkerId) :
    (endWorker? wid).All Act.OfRetirement := by
  cases wid with
  | none => trivial
  | some w => exact Prog.all_call.mpr trivial

theorem commitRetire_ofRetirement (task : Task) (tid : TaskId) (wid : Option WorkerId)
    (worker : Option Worker) {terminal : Option String}
    (hterminal : ∀ s, terminal = some s → s ∈ finalStates) (handle : Option WorkerHandle) :
    (commitRetire task tid wid worker terminal handle).All Act.OfRetirement := by
  refine Prog.All.bind_returns (ofRetirement_of_quiet (gateTerminal_quiet task terminal handle))
    (gateTerminal_returns (by decide) (by decide) task hterminal handle) fun gated hgated => ?_
  dsimp only
  split
  · next state hstate =>
    refine Prog.All.bind (Prog.all_call.mpr (hgated state (nonEmpty?_eq_some hstate)))
      fun committed => ?_
    split
    · exact concludeRetire_ofRetirement _ _ _ _ _
    · trivial
  · exact Prog.All.bind (endWorker?_ofRetirement wid) fun _ =>
      concludeRetire_ofRetirement _ _ _ _ _

/-- The part of `retire` under `_RETIRING`. -/
theorem retireBody_ofRetirement (tid : TaskId) (wid : Option WorkerId) {terminal : Option String}
    (hterminal : ∀ s, terminal = some s → s ∈ finalStates) (stopRuntime : Bool)
    (handle : Option WorkerHandle) :
    (retireBody tid wid terminal stopRuntime handle).All Act.OfRetirement := by
  refine Prog.All.bind (ofRetirement_of_quiet (quiet_of_silent (getWorker?_silent wid)))
    fun worker => ?_
  refine Prog.All.bind (Prog.all_call.mpr trivial) fun task => ?_
  cases task with
  | none => exact Prog.All.bind (Prog.all_call.mpr trivial) fun _ => trivial
  | some task =>
    dsimp only
    split
    · exact Prog.All.bind (Prog.all_call.mpr trivial) fun _ => trivial
    · exact Prog.All.bind (stopForRetire_ofRetirement tid wid stopRuntime handle) fun _ =>
        commitRetire_ofRetirement _ _ _ _ hterminal _

/-- What the callers of `retire` ask for. -/
def Requested (terminal : String) : Prop := terminal = "STUCK" ∨ terminal ∈ finalStates

theorem mapTerminal_requested {state : Option String} {exited : Bool} {paneTail terminal : String}
    (h : mapTerminal state exited paneTail = some terminal) : Requested terminal := by
  unfold mapTerminal at h
  dsimp only at h
  split at h
  · cases h
    exact Or.inr (by decide)
  · split at h
    · cases h
      exact Or.inl rfl
    · split at h
      · cases h
        exact Or.inr (by decide)
      · split at h
        · cases h
          exact Or.inr (by decide)
        · split at h
          · cases h
            exact Or.inr (by decide)
          · cases h

theorem retire_undispatched (tid : TaskId) (wid : Option WorkerId) {terminal : String}
    (hterminal : Requested terminal) (stopRuntime : Bool) :
    (retire tid wid (some terminal) stopRuntime).All (Act.Undispatched submits) := by
  unfold retire
  split
  · exact retireStuck_undispatched tid
  · next hstuck =>
    have hfinal : ∀ s, some terminal = some s → s ∈ finalStates := by
      rintro s ⟨⟩
      exact hterminal.resolve_left fun h => hstuck (congrArg some h)
    refine undispatched_bind (undispatched_call trivial) fun handle => ?_
    cases handle with
    | none => trivial
    | some handle =>
      exact ((retireBody_ofRetirement tid wid hfinal stopRuntime handle).mono
        Act.OfRetirement.undispatched).tryFinally (undispatched_call trivial)

theorem actuateNudge_undispatched (tid : TaskId) (h : WorkerHandle) (payload : JsonObj) :
    (actuateNudge tid h payload).All (Act.Undispatched submits) := by
  refine undispatched_bind (Prog.All.attempt (undispatched_call trivial)) fun pasted => ?_
  cases pasted with
  | error exc => trivial
  | ok _ =>
    refine undispatched_bind (undispatched_store trivial) fun task => ?_
    cases task with
    | none => trivial
    | some task =>
      dsimp only
      split
      · exact undispatched_bind (undispatched_store rfl) fun _ => trivial
      · trivial

theorem actuateStop_undispatched (tid : TaskId) (wid : Option WorkerId) (h : WorkerHandle) :
    (actuateStop tid wid h).All (Act.Undispatched submits) := by
  refine undispatched_bind (Prog.All.attempt (undispatched_call trivial)) fun stopped => ?_
  cases stopped with
  | error exc => trivial
  | ok _ =>
    refine undispatched_bind (retire_undispatched tid wid (Or.inr (by decide)) _)
      fun finalState => ?_
    split
    · trivial
    · refine undispatched_bind (undispatched_store trivial) fun task => ?_
      refine undispatched_bind (of_quiet (quiet_of_silent (getWorker?_silent wid))) fun worker => ?_
      split <;> trivial

theorem actuateSwitch_undispatched (tid : TaskId) (h : WorkerHandle) (rt : RuntimeAdapter)
    (pause : Bool) : (actuateSwitch tid h rt pause).All (Act.Undispatched submits) := by
  have hswitch : (switchWorker tid h pause).All (Act.Undispatched submits) := by
    refine undispatched_bind ?_ fun _ => undispatched_store (by cases pause <;> rfl)
    cases pause <;> exact undispatched_call trivial
  unfold actuateSwitch
  extract_lets action
  split_ifs
  all_goals first
    | trivial
    | refine undispatched_bind hswitch.attempt fun switched => ?_
      split <;> trivial

theorem actuate_undispatched (tid : TaskId) (action : String) (payload : JsonObj) :
    (actuate tid action payload).All (Act.Undispatched submits) := by
  refine undispatched_bind (undispatched_call trivial) fun entry => ?_
  cases entry with
  | none => trivial
  | some entry =>
    obtain ⟨wid, h⟩ := entry
    refine undispatched_bind (Prog.all_ofExcept _) fun rt => ?_
    split
    · exact actuateNudge_undispatched tid h payload
    · split
      · exact actuateStop_undispatched tid wid h
      · split
        · exact actuateSwitch_undispatched tid h rt true
        · split
          · exact actuateSwitch_undispatched tid h rt false
          · trivial

/-! ## The patrol -/

theorem observeEntry_undispatched (settings : Settings) (tid : TaskId) (wid : Option WorkerId)
    (h : WorkerHandle) : (observeEntry settings tid wid h).All (Act.Undispatched submits) := by
  refine undispatched_bind (of_quiet (observeAndRecord_quiet settings wid h false)) fun record => ?_
  split
  · trivial
  · next terminal hterminal =>
    refine undispatched_bind (retire_undispatched tid wid (mapTerminal_requested hterminal) true)
      fun committed => ?_
    cases committed with
    | none => trivial
    | some state =>
      exact undispatched_bind (of_quiet (recordEvent_quiet _ _ _)) fun _ => trivial

theorem observeRounds_undispatched (settings : Settings) (entries : List (TaskId × HandleEntry)) :
    (observeRounds settings entries).All (Act.Undispatched submits) := by
  induction entries with
  | nil => trivial
  | cons entry entries ih =>
    obtain ⟨tid, entry⟩ := entry
    refine undispatched_bind ?_ fun _ => undispatched_bind ih fun _ => trivial
    refine undispatched_bind (observeEntry_undispatched settings tid entry.1 entry.2).attempt
      fun still => ?_
    cases still with
    | error _ => trivial
    | ok still =>
      exact undispatched_bind (of_quiet (publishEntry_quiet tid _)).ignoring fun _ => trivial

/-! ## Requests -/

theorem createTasks_undispatched (hsubmits : submits) (settings : Settings) (pid : String)
    (tasks : List TaskCreate) : (createTasks settings pid tasks).All (Act.Undispatched submits) := by
  refine undispatched_bind (of_quiet (quiet_of_silent (silent_checkId _ _))) fun _ => ?_
  split
  · trivial
  split
  · trivial
  refine undispatched_bind (undispatched_store trivial) fun project => ?_
  cases project with
  | none => trivial
  | some _ =>
    dsimp only
    split
    · trivial
    refine undispatched_bind (undispatched_store trivial) fun existing => ?_
    split
    · trivial
    refine undispatched_bind (of_quiet (quiet_of_silent (validateAll_silent settings pid tasks))) fun prepared => ?_
    refine undispatched_bind (Prog.All.attempt (undispatched_store hsubmits)) fun created => ?_
    cases created with
    | error exc =>
      dsimp only
      split <;> trivial
    | ok _ =>
      exact undispatched_bind (of_quiet (publishCreated_quiet _)) fun _ => trivial

theorem stopForDelete_undispatched (tid : TaskId) : (stopForDelete tid).All (Act.Undispatched submits) := by
  refine undispatched_bind (actuate_undispatched tid "stop" []).attempt fun stopped => ?_
  split <;> trivial

theorem eraseTask_undispatched (tid : TaskId) (t : Task) : (eraseTask tid t).All (Act.Undispatched submits) :=
  undispatched_bind (undispatched_store trivial) fun _ =>
    undispatched_bind (undispatched_store trivial) fun _ =>
      undispatched_bind (undispatched_store trivial) fun _ => undispatched_call trivial

theorem deleteTask_undispatched (tid : TaskId) : (deleteTask tid).All (Act.Undispatched submits) := by
  have hstop (t : Task) : (stopForDelete tid >>= fun _ => eraseTask tid t).All (Act.Undispatched submits) :=
    undispatched_bind (stopForDelete_undispatched tid) fun _ => eraseTask_undispatched tid t
  refine undispatched_bind (undispatched_store trivial) fun task => ?_
  cases task with
  | none => trivial
  | some t =>
    dsimp only
    split
    · exact hstop t
    · refine undispatched_bind (undispatched_store trivial) fun wid => ?_
      cases wid with
      | none => exact eraseTask_undispatched tid t
      | some _ => exact hstop t

theorem workerPing_undispatched (settings : Settings) (authorization : Option String)
    (body : WorkerPing) : (workerPing settings authorization body).All (Act.Undispatched submits) := by
  refine undispatched_bind (of_quiet (quiet_of_silent (checkPingToken_silent settings authorization))) fun _ => ?_
  refine undispatched_bind (of_quiet (quiet_of_silent (silent_checkId _ _))) fun _ => ?_
  refine undispatched_bind (undispatched_store trivial) fun task => ?_
  cases task with
  | none => trivial
  | some t =>
    dsimp only
    split
    · trivial
    refine undispatched_bind (undispatched_store trivial) fun wid => ?_
    cases wid with
    | none => trivial
    | some _ =>
      refine undispatched_bind (of_quiet (recordEvent_quiet _ _ _)) fun _ => ?_
      refine undispatched_bind ?_ fun _ => of_quiet (publishEntry_quiet _ _)
      unfold retireReported
      split
      · trivial
      · next terminal hterminal =>
        refine undispatched_bind (undispatched_store trivial) fun wid => ?_
        refine undispatched_bind (retire_undispatched _ wid (mapTerminal_requested hterminal) true)
          fun committed => ?_
        cases committed with
        | none => trivial
        | some state => exact of_quiet (recordEvent_quiet _ _ _)

theorem actuateTask_undispatched (tid : TaskId) (action : String) (payload : Json) :
    (actuateTask tid action payload).All (Act.Undispatched submits) := by
  refine undispatched_bind (undispatched_store trivial) fun task => ?_
  cases task with
  | none => trivial
  | some _ =>
    dsimp only
    split
    · trivial
    cases payload with
    | obj payload =>
      refine undispatched_bind (undispatched_call trivial) fun length => ?_
      split
      · trivial
      split
      · trivial
      refine undispatched_bind (actuate_undispatched tid action payload) fun actuated => ?_
      cases actuated with
      | error reason => trivial
      | ok _ =>
        exact undispatched_bind (of_quiet (recordEvent_quiet _ _ _)) fun _ =>
          of_quiet (publishEntry_quiet tid none)
    | _ => trivial

/-! ## The dispatcher -/

theorem unretiring_of_quiet {α : Type} {p : Program α} (h : p.All Act.Quiet) :
    p.All Act.Unretiring := h.mono Act.Quiet.unretiring

theorem unretiring_call {α : Type} {a : Act α} (h : a.Unretiring) :
    (call a : Program α).All Act.Unretiring := Prog.all_call.mpr h

theorem releaseLock_unretiring (task : Task) (lock : Option Lock) :
    (releaseLock task lock).All Act.Unretiring := by
  cases lock with
  | none => trivial
  | some lock =>
    exact Prog.All.ignoring (Prog.All.bind (Prog.all_ofExcept _) fun _ => unretiring_call trivial)

theorem finishFailedClaim_unretiring (task : Task) (reason : String) (retryable : Bool) :
    (finishFailedClaim task reason retryable).All Act.Unretiring := by
  refine Prog.All.bind (Prog.All.attempt (unretiring_call trivial)) fun released => ?_
  exact Prog.All.bind (unretiring_of_quiet (schedulerEvent_quiet _ _ _)) fun _ =>
    unretiring_of_quiet (publishTask_quiet _)

theorem resolveDispatch_unretiring (settings : Settings) (task : Task) (wid : WorkerId) :
    (resolveDispatch settings task wid).All Act.Unretiring := by
  refine Prog.All.bind (Prog.all_ofExcept _) fun rt => ?_
  dsimp only
  split
  · trivial
  refine Prog.All.bind (Prog.all_ofExcept _) fun adapter => ?_
  refine Prog.All.bind (unretiring_of_quiet (quiet_of_silent (resolveHost_silent settings task))) fun host => ?_
  obtain ⟨wsPath, sshHost⟩ := host
  dsimp only
  split
  · trivial
  cases adapter with
  | none => trivial
  | some kind =>
    refine Prog.All.bind (unretiring_call trivial) fun lock => ?_
    cases lock <;> trivial

theorem prepare_unretiring (settings : Settings) (task : Task) :
    (prepare settings task).All Act.Unretiring := by
  refine Prog.All.bind (unretiring_call trivial) fun wid => ?_
  have hbody : (prepareClaimed settings task wid).All Act.Unretiring := by
    refine Prog.All.bind (resolveDispatch_unretiring settings task wid) fun d => ?_
    cases d with
    | some d => trivial
    | none =>
      exact Prog.All.bind (unretiring_call trivial) fun _ =>
        Prog.All.bind (unretiring_of_quiet (publishTask_quiet _)) fun _ => trivial
  refine Prog.All.bind hbody.attempt fun d => ?_
  cases d with
  | ok d => trivial
  | error exc => exact Prog.All.bind (finishFailedClaim_unretiring _ _ _) fun _ => trivial

theorem prepareAll_unretiring (settings : Settings) (tasks : List Task) :
    (prepareAll settings tasks).All Act.Unretiring := by
  induction tasks with
  | nil => trivial
  | cons task tasks ih =>
    exact Prog.All.bind (prepare_unretiring settings task) fun _ =>
      Prog.All.bind ih fun _ => trivial

theorem compensate_unretiring (d : Dispatch) (handle : Option WorkerHandle) (exc : PyErr) :
    (compensate d handle exc).All Act.Unretiring := by
  have hcleanUp : (cleanUp d handle).All Act.Unretiring := by
    cases handle with
    | none => trivial
    | some h =>
      refine Prog.All.bind (Prog.All.attempt (unretiring_call trivial)) fun stopped => ?_
      cases stopped <;> trivial
  have hdrop : (dropHandle d handle).All Act.Unretiring := by
    cases handle with
    | none => trivial
    | some h => exact unretiring_call trivial
  refine Prog.All.bind hcleanUp fun cleanupError => Prog.All.bind hdrop fun _ =>
    Prog.All.bind (releaseLock_unretiring d.task d.lock) fun _ => ?_
  cases cleanupError with
  | some stopExc =>
    exact Prog.All.bind (Prog.All.attempt (unretiring_call trivial)) fun _ =>
      unretiring_of_quiet (schedulerEvent_quiet _ _ _)
  | none => exact finishFailedClaim_unretiring _ _ _

theorem completeDispatch_unretiring (settings : Settings) (d : Dispatch)
    (started : Except PyErr WorkerHandle) :
    (completeDispatch settings d started).All Act.Unretiring := by
  cases started with
  | error exc => exact Prog.All.bind (compensate_unretiring d none exc) fun _ => trivial
  | ok h =>
    have hactivate : (activate d h).All Act.Unretiring := by
      refine Prog.All.bind (unretiring_call trivial) fun now =>
        Prog.All.bind (unretiring_call trivial) fun _ =>
          Prog.All.bind (unretiring_call trivial) fun owned => ?_
      cases owned <;> trivial
    refine Prog.All.bind hactivate.attempt fun activated => ?_
    cases activated with
    | error exc => exact Prog.All.bind (compensate_unretiring d (some h) exc) fun _ => trivial
    | ok _ =>
      exact Prog.All.bind (unretiring_of_quiet (schedulerEvent_quiet _ _ _)) fun _ =>
        Prog.All.bind (unretiring_of_quiet (observeDispatched_quiet _ _ _)) fun _ => trivial

theorem completeAll_unretiring (settings : Settings) (n : Nat) (ds : List Dispatch) :
    (completeAll settings n ds).All Act.Unretiring := by
  induction n generalizing ds with
  | zero => trivial
  | succ n ih =>
    cases ds with
    | nil => trivial
    | cons d ds =>
      refine Prog.All.bind (unretiring_call trivial) fun started => ?_
      exact Prog.All.bind (completeDispatch_unretiring settings _ started.2) fun _ =>
        Prog.All.bind (ih _) fun _ => trivial

/-- A dispatcher retires nothing. -/
theorem tick_unretiring (settings : Settings) : (tick settings).All Act.Unretiring := by
  refine Prog.All.bind (unretiring_call trivial) fun _ => ?_
  refine Prog.All.bind (unretiring_call trivial) fun claimed => ?_
  refine Prog.All.bind (unretiring_of_quiet (publishTasks_quiet _)) fun _ => ?_
  exact Prog.All.bind (prepareAll_unretiring settings claimed) fun prepared =>
    completeAll_unretiring settings _ prepared

/-! ## The reconciliation at startup -/

theorem markLost_reattaching (tid : TaskId) (wid : Option WorkerId) (reason : String)
    (stopRuntime : Bool) : (markLost tid wid reason stopRuntime).All Act.Reattaching := by
  refine Prog.All.mono ?_ Act.Undispatched.reattaching
  refine undispatched_bind (retire_undispatched tid wid (Or.inr (by decide)) stopRuntime)
    fun state => ?_
  cases state with
  | none => trivial
  | some _ => exact of_quiet (recordEvent_quiet _ _ _)

theorem findWindowAmong_reattaching (settings : Settings) (host : Option String)
    (names : List String) : (findWindowAmong settings host names).All Act.Reattaching := by
  induction names with
  | nil => trivial
  | cons window names ih =>
    refine Prog.All.bind (Prog.all_call.mpr trivial) fun pane => ?_
    cases pane with
    | none => trivial
    | some pane =>
      dsimp only
      split
      · trivial
      · exact ih

theorem reattach_reattaching (settings : Settings) (task : Task) (workspace : String)
    (host : Option String) (wid : Option WorkerId) (found : Option (String × String)) :
    (reattach settings task workspace host wid found).All Act.Reattaching := by
  cases found with
  | none => trivial
  | some found =>
    obtain ⟨window, pane⟩ := found
    unfold reattach
    dsimp only
    split
    · exact Prog.All.bind (markLost_reattaching _ _ _ _) fun _ => trivial
    · refine Prog.All.bind (Prog.all_call.mpr trivial) fun _ => ?_
      cases wid with
      | none => exact Prog.All.bind (markLost_reattaching _ _ _ _) fun _ => trivial
      | some _ => trivial

theorem reconcileTask_reattaching (settings : Settings) (task : Task) :
    (reconcileTask settings task).All Act.Reattaching := by
  have hlost (wid : Option WorkerId) (reason : String) :
      (markLost task.id wid reason false >>= fun _ => pure 0 : Program Nat).All Act.Reattaching :=
    Prog.All.bind (markLost_reattaching _ _ _ _) fun _ => trivial
  have hhost : (reconcileHost task).All Act.Reattaching := by
    unfold reconcileHost
    split
    · trivial
    · exact Prog.All.bind (Prog.all_call.mpr trivial) fun _ => trivial
  unfold reconcileTask
  split
  · trivial
  · refine Prog.All.bind (Prog.all_call.mpr trivial) fun wid => ?_
    split
    · exact hlost _ _
    · split
      · exact hlost _ _
      · refine Prog.All.bind hhost fun host => ?_
        cases host with
        | none => exact hlost _ _
        | some host =>
          refine Prog.All.bind ?_ fun found => reattach_reattaching _ _ _ _ _ _
          exact Prog.All.bind (Prog.all_call.mpr trivial) fun _ =>
            findWindowAmong_reattaching _ _ _

theorem reconcileAll_reattaching (settings : Settings) (tasks : List Task) :
    (reconcileAll settings tasks).All Act.Reattaching := by
  induction tasks with
  | nil => trivial
  | cons task tasks ih =>
    exact Prog.All.bind (reconcileTask_reattaching settings task) fun _ =>
      Prog.All.bind ih fun _ => trivial

theorem reconcileRunning_reattaching (settings : Settings) :
    (reconcileRunning settings).All Act.Reattaching :=
  Prog.All.bind (Prog.all_call.mpr trivial) fun tasks =>
    reconcileAll_reattaching settings tasks

end UndispatchedLemmas

/-- The operations that dispatch nothing and register no handle. -/
def Op.Undispatched (submits : Prop) : Op → Prop
  | .tick | .reconcileRunning => False
  | .createTasks _ _ => submits
  | _ => True

open QuietLemmas UndispatchedLemmas in
theorem program_undispatched {submits : Prop} {settings : Settings} {op : Op}
    (h : op.Undispatched submits) : (op.program settings).All (Act.Undispatched submits) := by
  cases op with
  | createProject p => exact undispatched_bind (undispatched_store trivial) fun _ => trivial
  | createHost host => exact undispatched_store trivial
  | createTasks pid tasks =>
    exact undispatched_bind (createTasks_undispatched h settings pid tasks) fun _ => trivial
  | deleteTask tid => exact deleteTask_undispatched tid
  | workerPing authorization body => exact workerPing_undispatched settings authorization body
  | actuate tid action payload => exact actuateTask_undispatched tid action payload
  | tick => exact h.elim
  | sweep =>
    exact undispatched_bind (undispatched_store trivial) fun lost =>
      of_quiet (publishTasks_quiet lost)
  | observeRunning =>
    refine undispatched_bind (undispatched_bind (undispatched_call trivial) fun entries => ?_)
      fun _ => trivial
    exact observeRounds_undispatched settings entries
  | recover tid => exact undispatched_bind (undispatched_store rfl) fun _ => trivial
  | reconcileRunning => exact h.elim

theorem Act.Undispatched.submitless {β : Type} (a : Act β) (h : a.Undispatched False) :
    a.Submitless := by
  cases a with
  | store q =>
    cases q with
    | createTasks => exact h.elim
    | _ => trivial
  | _ => trivial

open UndispatchedLemmas in
/-- Only a submission submits. -/
theorem program_submitless {settings : Settings} {op : Op} (h : ∀ pid tasks, op ≠ .createTasks pid tasks) :
    (op.program settings).All Act.Submitless := by
  cases op with
  | createTasks pid tasks => exact absurd rfl (h pid tasks)
  | tick =>
    refine Prog.All.bind ((tick_unretiring settings).mono fun a ha => ?_) fun _ => trivial
    cases a with
    | store q =>
      cases q with
      | createTasks => exact ha.elim
      | _ => trivial
    | _ => trivial
  | reconcileRunning =>
    refine Prog.All.bind ((reconcileRunning_reattaching settings).mono fun a ha => ?_) fun _ => trivial
    cases a with
    | register => trivial
    | _ => exact Act.Undispatched.submitless _ ha
  | _ => exact (program_undispatched (by exact trivial)).mono Act.Undispatched.submitless

end Flotilla
