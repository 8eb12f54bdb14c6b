import KerSorMonitor.Flotilla.AccountSteps

/-!
# Retirement and observation, by the accounts that they leave

Results:
1. `setTaskState_turns`, `finishWorker_turns`: the transactions that move one task.
2. `retire_turns`: a retirement moves the row or keeps it, and a worker that is running or stuck
   is always retired.
3. `observeAndRecord_turns`: an observation changes no more than the last status.
-/

namespace Flotilla

namespace Sinks

open Keyed Threads Store QuietLemmas Account

variable {settings : Settings} {op : Op} {s : Published} {tid : TaskId}

/-! ## Transactions about one task -/

/-- A task that is running or stuck. -/
def Account.Open (a : Account) : Prop :=
  ∃ task, a.row = some task ∧ (task.state = .running ∨ task.state = .stuck)

/-- A row of the account is moved to `st`. -/
def Account.MovedTo (a : Account) (task : Task) (st : TaskState) (a' : Account) : Prop :=
  ∃ now, a' = { a with row := some { task with state := st, updatedAt := now } }

theorem Account.MovedTo.row {a a' : Account} {task : Task} {st : TaskState}
    (h : a.MovedTo task st a') : ∃ task', a'.row = some task' ∧ task'.state = st := by
  obtain ⟨now, rfl⟩ := h
  exact ⟨_, rfl, rfl⟩

/-- One transaction, by the accounts. -/
theorem store_turns {α : Type} {q : Transaction α} {Q : Except PyErr α → Account → Prop}
    (hq : KeepsStatus q) (hadmits : ∀ env, admits (.store q) env = env.raises.isNone)
    (h : ∀ clock r db', q.exec settings clock s.world.db = (r, db') →
      Q r { s.account tid with row := db'.task? tid } ∧
        ∀ tid', tid' ≠ tid → db'.task? tid' = s.world.db.task? tid') :
    Turns settings op tid (store q) Q s := by
  refine call_runs fun env r s' ha _ hexec => ?_
  have hacc := account_store hq hexec
  obtain ⟨db', htx, rfl⟩ := exec_store_of_isNone ((hadmits env).symm.trans ha) hexec
  obtain ⟨hown, hother⟩ := h env.clock r db' htx
  refine ⟨hacc tid ▸ hown, fun tid' hne => ?_⟩
  rw [hacc tid']
  exact Account.ext (hother tid' hne) rfl rfl rfl rfl

/-- A transition that is asked for and is legal is made. -/
theorem setTaskState_ok (now : String) {target : String} {expected : Option (List TaskState)}
    {db : Db} {row : Task} {st : TaskState} (hrow : db.task? tid = some row)
    (hexp : ∀ set, expected = some set → row.state ∈ set)
    (htr : transition row.state target = .ok st) :
    (setTaskState now tid target expected db).1 = .ok true := by
  have hany : (expected.any fun set => !set.contains row.state) = false := by
    cases expected with
    | none => rfl
    | some set => simpa using hexp set rfl
  unfold setTaskState connection
  simp only [hrow, hany, htr, Bool.false_eq_true, ↓reduceIte]

/-- What `set_task_state` does to the account of its task. -/
structure Account.Stated (a : Account) (target : String) (expected : Option (List TaskState))
    (r : Except PyErr Bool) (a' : Account) : Prop where
  moved : a' = a ∧ r ≠ .ok true ∨ r = .ok true ∧ ∃ task st, a.row = some task ∧
    (∀ set, expected = some set → task.state ∈ set) ∧ transition task.state target = .ok st ∧
    a.MovedTo task st a'
  made : ∀ task st, a.row = some task → (∀ set, expected = some set → task.state ∈ set) →
    transition task.state target = .ok st → r = .ok true

theorem stated_of_exec {target : String} {expected : Option (List TaskState)} {now : String}
    {r : Except PyErr Bool} {db' : Db}
    (h : setTaskState now tid target expected s.world.db = (r, db')) :
    (s.account tid).Stated target expected r { s.account tid with row := db'.task? tid } ∧
      ∀ tid', tid' ≠ tid → db'.task? tid' = s.world.db.task? tid' := by
  have hmade : ∀ task st, (s.account tid).row = some task →
      (∀ set, expected = some set → task.state ∈ set) →
      transition task.state target = .ok st → r = .ok true := by
    intro task st hrow hexp htr
    have hok := setTaskState_ok now hrow hexp htr
    rwa [h] at hok
  rcases StoreLemmas.setTaskState_cases h with ⟨rfl, hr⟩ | ⟨task, st, hrow, hexp, htr, rfl, rfl⟩
  · exact ⟨⟨Or.inl ⟨rfl, hr⟩, hmade⟩, fun _ _ => rfl⟩
  · have hset := StoreLemmas.task?_setStates_of hrow st now
    refine ⟨⟨Or.inr ⟨rfl, task, st, hrow, hexp, htr, now, ?_⟩, hmade⟩, fun tid' hne => ?_⟩
    · rw [hset tid, if_pos rfl]
    · rw [hset tid', if_neg hne]

theorem setTaskState_turns (target : String) (expected : Option (List TaskState)) :
    Turns settings op tid (store (.setTaskState tid target expected))
      ((s.account tid).Stated target expected) s :=
  store_turns trivial (fun _ => rfl) fun _ _ _ htx => stated_of_exec htx

theorem releaseTaskClaim_turns (target : String) :
    Turns settings op tid (store (.releaseTaskClaim tid target))
      ((s.account tid).Stated target (some [.dispatching])) s :=
  store_turns trivial (fun _ => rfl) fun _ _ _ htx => stated_of_exec htx

/-- A worker whose task may end is finished. -/
theorem finishWorker_ok (now : String) (wid : Option WorkerId) {target : String}
    {event : Option Event} {db : Db} {row : Task} {st : TaskState} (hrow : db.task? tid = some row)
    (htr : transition row.state target = .ok st) (hev : ∀ e ∈ event, e.taskId = tid) :
    (finishWorker now tid wid target event db).1 = .ok true := by
  unfold finishWorker connection
  simp only [hrow, htr]
  cases event with
  | none => rfl
  | some e =>
    have hhas : (endWorkerOpt (db.setStates (fun t => t.id = tid && t.state = row.state) st now)
        wid now).task.Has e.taskId := by
      rw [StoreLemmas.endWorkerOpt_task, hev e rfl]
      exact Db.has_setStates.mpr ⟨row, Table.get?_eq_some_iff.mp hrow⟩
    simp only [Db.insertEvent, dif_pos hhas]

/-- What `finish_worker` does to the account of its task. -/
structure Account.Finished (a : Account) (target : String) (r : Except PyErr Bool) (a' : Account) :
    Prop where
  moved : a' = a ∧ (r = .ok false ∧ a.row = none ∨ ∃ e, r = .error e) ∨
    r = .ok true ∧ ∃ task st, a.row = some task ∧ transition task.state target = .ok st ∧
      a.MovedTo task st a'
  made : ∀ task st, a.row = some task → transition task.state target = .ok st → r = .ok true

theorem finishWorker_turns (wid : Option WorkerId) (target : String) {event : Option Event}
    (hev : ∀ e ∈ event, e.taskId = tid ∧ e.type ≠ "status") :
    Turns settings op tid (store (.finishWorker tid wid target event))
      ((s.account tid).Finished target) s := by
  refine store_turns (fun e he => (hev e he).2) (fun _ => rfl) fun clock r db' htx => ?_
  have hmade : ∀ task st, (s.account tid).row = some task →
      transition task.state target = .ok st → r = .ok true := by
    intro task st hrow htr
    have hok := finishWorker_ok clock.now wid hrow htr fun e he => (hev e he).1
    rwa [show finishWorker clock.now tid wid target event s.world.db = (r, db') from htx] at hok
  rcases StoreLemmas.finishWorker_cases htx with ⟨rfl, hr⟩ | ⟨task, st, hrow, htr, rfl, -, -, hset⟩
  · exact ⟨⟨Or.inl ⟨rfl, hr⟩, hmade⟩, fun _ _ => rfl⟩
  · refine ⟨⟨Or.inr ⟨rfl, task, st, hrow, htr, clock.now, ?_⟩, hmade⟩, fun tid' hne => ?_⟩
    · rw [hset tid, if_pos rfl]
    · rw [hset tid', if_neg hne]

/-! ## Programs that do not raise -/

/-- A transaction that keeps the tasks and does not fail. -/
theorem kept_turns {α : Type} {q : Transaction α} (hq : KeepsStatus q)
    (hadmits : ∀ env, admits (.store q) env = env.raises.isNone)
    (htasks : TransactionLemmas.KeepsTasks q)
    (hok : ∀ clock db, ∃ x, (q.exec settings clock db).1 = .ok x) :
    Turns settings op tid (store q) (fun r a => (∃ x, r = .ok x) ∧ a = s.account tid) s := by
  refine store_turns hq hadmits fun clock r db' htx => ?_
  have hsame := TransactionLemmas.task_eq_of_keepsTasks htasks htx
  have hrow (tid' : TaskId) : db'.task? tid' = s.world.db.task? tid' :=
    congrArg (Keyed.Table.get? · tid') hsame
  refine ⟨⟨?_, Account.ext (hrow tid) rfl rfl rfl rfl⟩, fun tid' _ => hrow tid'⟩
  obtain ⟨x, hx⟩ := hok clock s.world.db
  rw [htx] at hx
  exact ⟨x, hx⟩

theorem getWorker?_turns (wid : Option WorkerId) :
    Turns settings op tid (getWorker? wid) (fun r a => (∃ x, r = .ok x) ∧ a = s.account tid) s := by
  cases wid with
  | none => exact Turns.ret ⟨⟨_, rfl⟩, rfl⟩
  | some w => exact kept_turns trivial (fun _ => rfl) trivial fun _ _ => ⟨_, rfl⟩

theorem activeWorkerId_turns (tid' : TaskId) :
    Turns settings op tid (store (.activeWorkerId tid'))
      (fun r a => (∃ x, r = .ok x) ∧ a = s.account tid) s :=
  kept_turns trivial (fun _ => rfl) trivial fun _ _ => ⟨_, rfl⟩

theorem endWorker?_turns (wid : Option WorkerId) :
    Turns settings op tid (endWorker? wid) (fun r a => (∃ x, r = .ok x) ∧ a = s.account tid) s := by
  cases wid with
  | none => exact Turns.ret ⟨⟨_, rfl⟩, rfl⟩
  | some w => exact kept_turns trivial (fun _ => rfl) trivial fun _ _ => ⟨_, rfl⟩

/-- `try: ... except Exception as exc: ...`, where the handler ignores its own failure. -/
theorem shielded_turns {p : Program Unit} {warn : PyErr → Program Unit} (hp : p.All Mute)
    (hwarn : ∀ exc, (warn exc).All Mute) :
    Turns settings op tid (p.tryCatch fun exc => (warn exc).ignoring)
      (fun r a => r = .ok () ∧ a = s.account tid) s := by
  have hbody : Turns settings op tid p (fun _ a => a = s.account tid) s := Turns.of_mute hp
  refine Safe.tryCatch (Safe.mono hbody fun r s' hs => ?_)
  cases r with
  | ok _ => exact hs.mono fun _ ha => ⟨rfl, ha⟩
  | error exc =>
    have hignore : Turns settings op tid (warn exc).ignoring
        (fun r a => r = .ok () ∧ a = s'.account tid) s' := Turns.ignoring (Turns.of_mute (hwarn exc))
    refine Safe.mono hignore fun _ _ hs' => hs.trans ?_
    exact hs'.mono fun _ ha => ⟨ha.1, ha.2.trans hs.own⟩

theorem stopForRetire_turns (tid' : TaskId) (wid : Option WorkerId) (stopRuntime : Bool)
    (handle : Option WorkerHandle) :
    Turns settings op tid (stopForRetire tid' wid stopRuntime handle)
      (fun r a => r = .ok () ∧ a = s.account tid) s := by
  unfold stopForRetire
  split
  · exact shielded_turns (Prog.all_call.mpr trivial) fun _ => recordEvent_mute _ (by decide)
  · exact Turns.ret ⟨rfl, rfl⟩

theorem releaseForRetire_turns (task : Task) (tid' : TaskId) (worker : Option Worker) :
    Turns settings op tid (releaseForRetire task tid' worker)
      (fun r a => r = .ok () ∧ a = s.account tid) s := by
  unfold releaseForRetire
  split
  · exact Turns.ret ⟨rfl, rfl⟩
  · split
    · refine shielded_turns ?_ fun _ => recordEvent_mute _ (by decide)
      exact Prog.All.bind (Prog.all_ofExcept _) fun _ => Prog.all_call.mpr trivial
    · exact Turns.ret ⟨rfl, rfl⟩

/-! ## The gate -/

/-- The evaluator ends a task as done or failed, and its event is one of the task. -/
theorem evaluationEvent_turns (task : Task) (handle : Option WorkerHandle) :
    Turns settings op tid (evaluationEvent task handle)
      (fun r a => a = s.account tid ∧ ∃ state event, r = .ok (state, event) ∧
        (state = "DONE" ∨ state = "FAILED") ∧
        ∀ e ∈ event, e.taskId = task.id ∧ e.type ≠ "status") s := by
  unfold evaluationEvent
  split
  · exact Turns.ret ⟨rfl, _, _, rfl, Or.inl rfl, fun e he => (by cases he)⟩
  · next name _ =>
    refine Turns.attempt_seq (Turns.of_silent (evaluateLocally_silent _ _ _)) fun result s₁ hacc => ?_
    refine Safe.seq (newEvent_runs _ _ _) ?_ ?_
    · rintro e s₂ ⟨⟨ts, hts⟩, rfl⟩
      cases hts
      refine Turns.ret ⟨hacc, _, _, rfl, UndispatchedLemmas.evaluationOutcome_eq _ result, ?_⟩
      rintro e' he'
      cases he'
      exact ⟨rfl, show "evaluation" ≠ "status" by decide⟩
    · rintro e s₂ ⟨⟨ts, hts⟩, -⟩
      cases hts

/-- A task that is not terminal is given a terminal state. -/
theorem gateTerminal_turns {task : Task} (hopen : task.state.isTerminal = false) {terminal : String}
    (hterminal : terminal ∈ finalStates) (handle : Option WorkerHandle) :
    Turns settings op tid (gateTerminal task (some terminal) handle)
      (fun r a => a = s.account tid ∧ ∃ state event, r = .ok (some state, event) ∧
        state ∈ finalStates ∧ (state = terminal ∨ terminal = "DONE") ∧
        ∀ e ∈ event, e.taskId = task.id ∧ e.type ≠ "status") s := by
  unfold gateTerminal
  rw [if_neg (by simp [hopen])]
  split
  · next hdone =>
    refine Turns.seq (evaluationEvent_turns task handle) ?_ ?_
    · rintro gated s₁ ⟨hacc, state, event, hgated, hstate, hevent⟩
      cases hgated
      refine Turns.ret ⟨hacc, state, event, rfl, ?_, Or.inr (Option.some.inj hdone), hevent⟩
      rcases hstate with rfl | rfl <;> decide
    · rintro e a ⟨-, state, event, hgated, -⟩
      cases hgated
  · exact Turns.ret ⟨rfl, terminal, none, rfl, hterminal, Or.inl rfl, fun e he => (by cases he)⟩

/-! ## Retirement -/

theorem transition_final {current st : TaskState} {target : String} (htarget : target ∈ finalStates)
    (h : transition current target = .ok st) : st.isTerminal = true := by
  have hname := (transition_eq_ok h).1
  have hfinal : ∀ target ∈ finalStates,
      ((TaskState.ofName? target).all TaskState.isTerminal) = true := by
    decide
  have hst := hfinal target htarget
  rwa [hname] at hst

/-- A task that is running or stuck may end, and may get stuck. -/
theorem exists_transition {current : TaskState} (h : current = .running ∨ current = .stuck)
    {target : String} (htarget : UndispatchedLemmas.Requested target) :
    ∃ st, transition current target = .ok st := by
  have hall : ∀ current ∈ [TaskState.running, .stuck], ∀ target ∈ "STUCK" :: finalStates,
      (transition current target).isOk = true := by decide
  have hmem : target ∈ "STUCK" :: finalStates :=
    htarget.elim (fun heq => heq ▸ List.mem_cons_self) (List.mem_cons_of_mem _)
  have hok := hall current (by rcases h with rfl | rfl <;> decide) target hmem
  cases htr : transition current target with
  | ok st => exact ⟨st, rfl⟩
  | error e =>
    rw [htr] at hok
    cases hok

theorem Account.MovedTo.moved {a a' : Account} {task : Task} {st : TaskState} {target : String}
    (h : a.MovedTo task st a') (hrow : a.row = some task)
    (htr : transition task.state target = .ok st) : Moved a a' := by
  obtain ⟨now, rfl⟩ := h
  exact ⟨Or.inr ⟨task, _, hrow, rfl, (transition_eq_ok htr).2, rfl⟩, rfl, rfl⟩

/-- What a retirement of the task does to its account. -/
structure Account.Retired (tid : TaskId) (terminal : String) (a : Account)
    (r : Except PyErr (Option String)) (a' : Account) : Prop where
  moved : Moved a a'
  status : a'.status = a.status
  manned : a.Manned tid → a'.Manned tid
  unpaused : a.Unpaused → a'.Unpaused
  kept : (∀ state, r ≠ .ok (some state)) → a'.row = a.row
  returns : a.Open → ∃ x, r = .ok x
  asked : ∀ state, r = .ok (some state) → state = terminal ∨ terminal = "DONE"
  ended : ∀ state, r = .ok (some state) → terminal = "STUCK" ∨ a'.handle = none

/-- A retirement that changes nothing. -/
theorem Account.Retired.same {terminal : String} {a : Account} {r : Except PyErr (Option String)}
    (hnone : ∀ state, r ≠ .ok (some state)) (hr : a.Open → ∃ x, r = .ok x) :
    Retired tid terminal a r a :=
  ⟨.refl a, rfl, id, id, fun _ => rfl, hr, fun state h => absurd h (hnone state),
    fun state h => absurd h (hnone state)⟩

/-- A row that keeps its state and is no longer manned. -/
theorem Account.Retired.unmanned {terminal : String} {a : Account} :
    Retired tid terminal a (.ok none) { a with handle := none } where
  moved := ⟨Or.inl rfl, rfl, rfl⟩
  status := rfl
  manned _ := manned_of_no_handle rfl
  unpaused h := h
  kept _ := rfl
  returns _ := ⟨_, rfl⟩
  asked := nofun
  ended := nofun

theorem unregister_turns (caller : Caller) :
    Turns settings op tid (.call (.unregister tid caller))
      (fun r a => r = .ok () ∧ a = { s.account tid with handle := none }) s := by
  refine call_runs fun env r s' _ _ hexec => ?_
  have hacc := account_unregister hexec
  refine ⟨⟨?_, (hacc tid).trans (if_pos rfl)⟩, fun tid' hne => (hacc tid').trans (if_neg hne)⟩
  cases hexec
  rfl

theorem concludeRetire_turns (task : Task) (wid : Option WorkerId) (worker : Option Worker)
    (result : Option String) :
    Turns settings op tid (concludeRetire task tid wid worker result)
      (fun r a => r = .ok result ∧ a = { s.account tid with handle := none }) s := by
  refine Turns.done_seq (releaseForRetire_turns task tid worker) fun s₁ hacc => ?_
  refine Turns.done_seq (unregister_turns _) fun s₂ hacc₂ => ?_
  exact Turns.ret ⟨rfl, hacc ▸ hacc₂⟩

/-- A commit that ends the task, or leaves its row alone. -/
theorem commitRetire_turns {task : Task} (hrow : (s.account tid).row = some task)
    (wid : Option WorkerId) (worker : Option Worker) {terminal : String}
    (hterminal : terminal ∈ finalStates) (handle : Option WorkerHandle) :
    Turns settings op tid (commitRetire task tid wid worker (some terminal) handle)
      (Retired tid terminal (s.account tid)) s := by
  unfold commitRetire
  cases hopen : task.state.isTerminal with
  | true =>
    -- a row that has ended stays as it is: only the worker and the handle go
    have hgate : gateTerminal task (some terminal) handle = pure (none, none) := if_pos hopen
    rw [hgate]
    refine Turns.value_seq (p := endWorker? wid) (endWorker?_turns wid) fun _ s₁ hacc => ?_
    refine Turns.mono (concludeRetire_turns task wid worker none) ?_
    rintro r a ⟨rfl, rfl⟩
    rw [hacc]
    exact .unmanned
  | false =>
    refine Turns.seq (gateTerminal_turns hopen hterminal handle) ?_ ?_
    · rintro gated s₁ ⟨hacc, state, event, hgated, hstate, hasked, hevent⟩
      cases hgated
      have hid : task.id = tid := account_row_id hrow
      have hne : nonEmpty? (some state) = some state := by
        have hall : ∀ state ∈ finalStates, nonEmpty? (some state) = some state := by decide
        exact hall state hstate
      dsimp only
      rw [hne]
      refine Turns.seq (finishWorker_turns wid state fun e he => ⟨(hevent e he).1.trans hid,
        (hevent e he).2⟩) ?_ ?_
      · rintro committed s₂ hfin
        rw [hacc] at hfin
        rcases hfin.moved with ⟨hsame, ⟨hr, hnone⟩ | ⟨e, hr⟩⟩ | ⟨hr, task', st, hrow', htr, hmoved⟩
        · rw [hrow] at hnone
          cases hnone
        · cases hr
        · cases hr
          refine Turns.mono (concludeRetire_turns task wid worker _) ?_
          rintro r a ⟨rfl, rfl⟩
          have hst := transition_final hstate htr
          obtain ⟨now, hmoved'⟩ := hmoved
          rw [hmoved']
          refine ⟨?_, rfl, fun _ => manned_of_no_handle rfl, fun _ => ?_, fun hr => ?_, fun _ =>
            ⟨_, rfl⟩, ?_, fun _ _ => Or.inr rfl⟩
          · have hm := Account.MovedTo.moved ⟨now, rfl⟩ hrow' htr
            exact ⟨hm.row, hm.entry, hm.ever⟩
          · rintro task'' h''
            cases h''
            dsimp only
            rintro rfl
            cases hst
          · exact absurd rfl (hr state)
          · rintro _ ⟨⟩
            exact hasked
      · rintro e a hfin
        rw [hacc] at hfin
        obtain ⟨hsame, -⟩ := hfin.moved.resolve_right fun h => (by cases h.1)
        rw [hsame]
        refine .same nofun ?_
        -- from running or stuck every final state is allowed, so this commit was not of such a row
        rintro ⟨task', hrow', hstate'⟩
        obtain ⟨st, htr⟩ := exists_transition hstate' (Or.inr hstate)
        cases hfin.made task' st hrow' htr
    · rintro e a ⟨-, state, event, hgated, -⟩
      cases hgated

theorem retireBody_turns (wid : Option WorkerId) {terminal : String}
    (hterminal : terminal ∈ finalStates) (stopRuntime : Bool) (handle : Option WorkerHandle) :
    Turns settings op tid (retireBody tid wid (some terminal) stopRuntime handle)
      (Retired tid terminal (s.account tid)) s := by
  have hdrop (s₁ : Published) (hacc : s₁.account tid = s.account tid) :
      Turns settings op tid (.call (.unregister tid (.retirement tid wid)) >>= fun _ => pure none)
        (Retired tid terminal (s.account tid)) s₁ := by
    refine Turns.done_seq (unregister_turns _) fun s₂ hacc₂ => ?_
    refine Turns.ret ?_
    rw [hacc₂, hacc]
    exact .unmanned
  refine Turns.value_seq (getWorker?_turns wid) fun worker s₁ hacc => ?_
  refine getTask_seq ?_
  cases hrow : (s₁.account tid).row with
  | none => exact hdrop s₁ hacc
  | some task =>
    dsimp only
    split
    · exact hdrop s₁ hacc
    · refine Turns.done_seq (stopForRetire_turns tid wid stopRuntime handle) fun s₃ hacc₃ => ?_
      rw [← hacc, ← hacc₃]
      exact commitRetire_turns (hacc₃ ▸ hrow) wid worker hterminal handle

theorem beginRetire_turns :
    Turns settings op tid (.call (.beginRetire tid))
      (fun r a => (∃ x, r = .ok x) ∧ a = s.account tid) s := by
  refine call_runs fun env r s' _ _ hexec => ?_
  have hacc := account_of_mute (a := .beginRetire tid) trivial hexec
  refine ⟨⟨?_, hacc tid⟩, fun tid' _ => hacc tid'⟩
  obtain rfl : (World.exec settings env (.beginRetire tid) s.world).1 = r :=
    congrArg Prod.fst hexec
  unfold World.exec
  dsimp only
  split <;> exact ⟨_, rfl⟩

theorem endRetire_turns :
    Turns settings op tid (.call (.endRetire tid)) (fun r a => r = .ok () ∧ a = s.account tid) s := by
  refine call_runs fun env r s' _ _ hexec => ?_
  have hacc := account_of_mute (a := .endRetire tid) trivial hexec
  refine ⟨⟨?_, hacc tid⟩, fun tid' _ => hacc tid'⟩
  cases hexec
  rfl

/-- A worker that is stuck stays, and so does its handle. -/
theorem retireStuck_turns :
    Turns settings op tid (retireStuck tid) (Retired tid "STUCK" (s.account tid)) s := by
  refine getTask_seq ?_
  cases hrow : (s.account tid).row with
  | none => exact Turns.ret (.same nofun fun _ => ⟨_, rfl⟩)
  | some task =>
    dsimp only
    split
    · exact Turns.ret (.same nofun fun _ => ⟨_, rfl⟩)
    · refine Turns.seq (setTaskState_turns _ _) ?_ ?_
      · rintro stated s₂ hst
        refine Turns.ret ?_
        rcases hst.moved with ⟨hsame, -⟩ | ⟨-, task', st, hrow', -, htr, hmoved⟩
        · -- the refusal of the store is ignored
          rw [hsame]
          exact ⟨.refl _, rfl, id, id, fun _ => rfl, fun _ => ⟨_, rfl⟩, fun state h => Or.inl (by
            cases h
            rfl), fun _ _ => Or.inl rfl⟩
        · have hstuck : st = .stuck := by
            have hname := (transition_eq_ok htr).1
            rw [show TaskState.ofName? "STUCK" = some .stuck by decide] at hname
            exact (Option.some.inj hname).symm
          have hm := hmoved.moved hrow' htr
          obtain ⟨now, hmoved'⟩ := hmoved
          rw [hmoved', hstuck] at hm ⊢
          refine ⟨hm, rfl, fun hman wid h hh => ?_, fun _ => ?_, fun hr => ?_, fun _ => ⟨_, rfl⟩,
            ?_, fun _ _ => Or.inl rfl⟩
          · exact ⟨(hman wid h hh).1, _, rfl, Or.inr rfl⟩
          · rintro task'' h''
            cases h''
            exact nofun
          · exact absurd rfl (hr "STUCK")
          · rintro _ ⟨⟩
            exact Or.inl rfl
      · intro e a hst
        obtain ⟨hsame, -⟩ := hst.moved.resolve_right fun h => (by cases h.1)
        rw [hsame]
        refine .same nofun ?_
        rintro ⟨task', hrow', hstate'⟩
        obtain ⟨st, htr⟩ := exists_transition hstate' (Or.inl rfl)
        have hmem : task'.state ∈ [TaskState.running, .paused, .stuck] := by
          rcases hstate' with h | h <;> rw [h] <;> decide
        cases hst.made task' st hrow' (by rintro set ⟨⟩; exact hmem) htr

/-- A retirement moves the row or keeps it, and it returns when the worker is running or stuck. -/
theorem retire_turns (wid : Option WorkerId) {terminal : String}
    (hterminal : UndispatchedLemmas.Requested terminal) (stopRuntime : Bool) :
    Turns settings op tid (retire tid wid (some terminal) stopRuntime)
      (Retired tid terminal (s.account tid)) s := by
  unfold retire
  split
  · next hstuck =>
    rw [Option.some.inj hstuck]
    exact retireStuck_turns
  · next hstuck =>
    have hfinal : terminal ∈ finalStates :=
      hterminal.resolve_left fun heq => hstuck (congrArg some heq)
    refine Turns.seq beginRetire_turns ?_ ?_
    · rintro handle s₁ ⟨-, hacc⟩
      rw [← hacc]
      cases handle with
      | none => exact Turns.ret (.same nofun fun _ => ⟨_, rfl⟩)
      | some handle =>
        exact Turns.tryFinally (fun _ => endRetire_turns) (retireBody_turns wid hfinal _ handle)
    · rintro e a ⟨⟨x, hx⟩, -⟩
      cases hx

/-! ## Observation -/

theorem Account.Settled.recorded {a : Account} (h : a.Settled tid) (record : JsonObj) :
    { a with status := record }.Settled tid :=
  ⟨⟨h.known.nameless, h.known.entry⟩, h.manned, h.unpaused⟩

theorem Account.Retired.settled {terminal : String} {a a' : Account}
    {r : Except PyErr (Option String)} (h : Retired tid terminal a r a') (hs : a.Settled tid) :
    a'.Settled tid :=
  ⟨hs.known.moved h.moved, h.manned hs.manned, h.unpaused hs.unpaused⟩

theorem Account.Moved.row_ne_none {a a' : Account} (h : Moved a a') (hrow : a.row ≠ none) :
    a'.row ≠ none := by
  rcases h.row with heq | ⟨_, task', -, hrow', -⟩
  · rwa [heq]
  · rw [hrow']
    exact nofun

theorem Account.Open.row_ne_none {a : Account} (h : a.Open) : a.row ≠ none := by
  obtain ⟨task, hrow, -⟩ := h
  rw [hrow]
  exact nofun

theorem recordEvent_turns {type : String} (payload : JsonObj) (htype : type ≠ "status")
    (hrow : (s.account tid).row ≠ none) :
    Turns settings op tid (recordEvent tid type payload)
      (fun r a => r = .ok () ∧ a = s.account tid) s :=
  Safe.mono (recordEvent_runs payload htype hrow) fun _ _ h => .of_same h.2 ⟨h.1, rfl⟩

theorem recordStatus_turns (record : JsonObj) (hrow : (s.account tid).row ≠ none) :
    Turns settings op tid (recordEvent tid "status" record)
      (fun r a => r = .ok () ∧ a = { s.account tid with status := record }) s := by
  refine Safe.mono (recordStatus_runs tid record) fun r s' h => ?_
  rcases h with ⟨-, hnone, -⟩ | ⟨hr, hs⟩
  · exact absurd hnone hrow
  · exact hs.mono fun _ ha => ⟨hr, ha⟩

/-- The task is shown with the status that it has. -/
theorem publishEntry_turns {status : Option JsonObj} (h : (s.account tid).Settled tid)
    (hst : status.getD (s.account tid).status = (s.account tid).status) :
    Turns settings op tid (publishEntry tid status) (fun r a => r = .ok () ∧ a.Good tid) s :=
  Safe.mono (publishEntry_runs tid status) fun _ _ hs =>
    hs.2.mono fun _ ha => ⟨hs.1, ha ▸ h.good_republished (fun _ => account_row_id) hst⟩

theorem publishCurrent_turns {status : Option JsonObj} (h : (s.account tid).Settled tid)
    (hst : status.getD (s.account tid).status = (s.account tid).status) :
    Turns settings op tid (.call (.publish (.current tid status)))
      (fun r a => r = .ok () ∧ a.Good tid) s :=
  Safe.mono (publishCurrent_runs tid status) fun _ _ hs =>
    hs.2.mono fun _ ha => ⟨hs.1, ha ▸ h.good_republished (fun _ => account_row_id) hst⟩

/-- An observation records a status, or raises before it. -/
theorem observeAndRecord_turns (wid : Option WorkerId) {h : WorkerHandle} (htid : h.taskId = tid)
    (hrow : (s.account tid).row ≠ none) :
    Turns settings op tid (observeAndRecord settings wid h false)
      (fun r a => (∃ e, r = .error e) ∧ a = s.account tid ∨
        ∃ record, r = .ok record ∧ a = { s.account tid with status := record }) s := by
  subst htid
  refine Turns.mute_seq (Prog.all_ofExcept _) (fun rt s₁ hacc => ?_) fun e => Or.inl ⟨⟨e, rfl⟩, rfl⟩
  refine Turns.mute_seq ((observeWorker_silent settings wid h rt).mono mute_of_silent)
    (fun observed s₂ hacc₂ => ?_) fun e => Or.inl ⟨⟨e, rfl⟩, hacc⟩
  have hacc₂ : s₂.account h.taskId = s.account h.taskId := hacc₂.trans hacc
  refine Turns.done_seq (recordStatus_turns _ (hacc₂ ▸ hrow)) fun s₃ hacc₃ => ?_
  exact Turns.ret (Or.inr ⟨_, rfl, hacc₂ ▸ hacc₃⟩)

/-- The first part of a round leaves the task as it was, or with the status that it returns. -/
theorem observeEntry_turns (wid : Option WorkerId) {h : WorkerHandle} (htid : h.taskId = tid)
    (hopen : (s.account tid).Open) (hs : (s.account tid).Settled tid) :
    Turns settings op tid (observeEntry settings tid wid h)
      (fun r a => (∃ e, r = .error e) ∧ a = s.account tid ∨
        ∃ still record, r = .ok (still, record) ∧ a.Settled tid ∧ a.status = record) s := by
  refine Turns.seq (observeAndRecord_turns wid htid hopen.row_ne_none) ?_ ?_
  · rintro record s₁ (⟨⟨e, he⟩, -⟩ | ⟨_, hok, hacc⟩)
    · cases he
    cases hok
    have hs₁ : (s₁.account tid).Settled tid := hacc ▸ hs.recorded record
    have hst₁ : (s₁.account tid).status = record := by rw [hacc]
    have hopen₁ : (s₁.account tid).Open := by
      rw [hacc]
      exact hopen
    cases hterm : recordTerminal record with
    | none => exact Turns.ret (Or.inr ⟨true, record, rfl, hs₁, hst₁⟩)
    | some terminal =>
      refine Turns.seq (retire_turns wid (UndispatchedLemmas.mapTerminal_requested hterm) true) ?_ ?_
      · rintro committed s₂ hret
        have hs₂ := hret.settled hs₁
        have hst₂ : (s₂.account tid).status = record := hret.status.trans hst₁
        cases committed with
        | none => exact Turns.ret (Or.inr ⟨false, record, rfl, hs₂, hst₂⟩)
        | some state =>
          refine Turns.done_seq (recordEvent_turns _ (by decide)
            (hret.moved.row_ne_none hopen₁.row_ne_none)) fun s₃ hacc₃ => ?_
          exact Turns.ret (Or.inr ⟨false, record, rfl, hacc₃ ▸ hs₂, hacc₃ ▸ hst₂⟩)
      · -- the task was running or stuck, so its retirement returns
        rintro e a hret
        obtain ⟨x, hx⟩ := hret.returns hopen₁
        cases hx
  · rintro e a (⟨-, hacc⟩ | ⟨_, hok, -⟩)
    · exact Or.inl ⟨⟨e, rfl⟩, hacc⟩
    · cases hok

end Sinks

end Flotilla
