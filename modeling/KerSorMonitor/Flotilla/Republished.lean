import KerSorMonitor.Flotilla.AccountRetire

/-!
# Requests and patrols publish what they change

Every request and every round of the patrol leaves the accounts good: whoever moves a row or
records a status publishes the task before the operation ends.

Results:
1. `observeRunning_runs`, `workerPing_runs`, `actuateTask_runs`: observations and actuations.
2. `deleteTask_runs`: the tombstone hides the task that is deleted.
3. `createTasks_runs`: the tasks of a batch are shown as they were inserted.
-/

namespace Flotilla

namespace Sinks

open Keyed Threads Store QuietLemmas Account

variable {settings : Settings} {op : Op} {s : Published} {tid : TaskId}

/-- Every task is shown as the database has it. -/
def AllGood (s : Published) : Prop := ∀ tid, (s.account tid).Good tid

/-! ## The patrol -/

theorem Account.Good.open (h : (s.account tid).Good tid) {wid : Option WorkerId}
    {handle : WorkerHandle} (hh : (s.account tid).handle = some (wid, handle)) :
    handle.taskId = tid ∧ (s.account tid).Open := by
  obtain ⟨htid, task, hrow, hstate⟩ := h.manned wid handle hh
  exact ⟨htid, task, hrow, hstate⟩

theorem observeRound_turns {entry : HandleEntry} (h : (s.account tid).Good tid)
    (hentry : (s.account tid).handle = some entry) :
    Turns settings op tid (observeRound settings tid entry) (fun _ => Account.Good tid) s := by
  obtain ⟨wid, handle⟩ := entry
  obtain ⟨htid, hopen⟩ := h.open hentry
  refine Turns.attempt_seq (observeEntry_turns wid htid hopen h.settled) fun seen s₁ hseen => ?_
  rcases hseen with ⟨⟨e, rfl⟩, hacc⟩ | ⟨still, record, rfl, hs₁, hst₁⟩
  · -- the patrol goes on with the next entry
    exact Turns.ret (hacc ▸ h)
  · exact Turns.done_seq (Turns.ignoring (Turns.mono (publishEntry_turns hs₁ hst₁.symm)
      fun _ _ ha => ha.2)) fun s₂ ha => Turns.ret ha

/-- A round changes the task of its entry only, and the entries have different tasks. -/
theorem observeRounds_runs : ∀ {entries : List (TaskId × HandleEntry)} {s : Published},
    (entries.map Prod.fst).Nodup → AllGood s →
    (∀ entry ∈ entries, (s.account entry.1).handle = some entry.2) →
    Runs settings op (observeRounds settings entries) (fun _ => AllGood) s
  | [], _, _, hs, _ => hs
  | (tid, entry) :: entries, s, hnodup, hs, hentries => by
    obtain ⟨hnotin, hnodup⟩ := List.nodup_cons.mp hnodup
    have hround : Turns settings op tid (observeRound settings tid entry)
        (fun _ => Account.Good tid) s := observeRound_turns (hs tid) (hentries _ List.mem_cons_self)
    refine Safe.seq hround (fun n s₁ hs₁ => ?_) fun _ s₁ hs₁ => hs₁.good fun tid' _ => hs tid'
    have hgood₁ : AllGood s₁ := hs₁.good fun tid' _ => hs tid'
    refine Safe.seq (observeRounds_runs hnodup hgood₁ fun entry' hmem => ?_)
      (fun m s₂ hs₂ => hs₂) fun _ s₂ hs₂ => hs₂
    -- the rounds to come find the handles of their own tasks as they were listed
    have hne : entry'.1 ≠ tid := fun heq =>
      hnotin (heq ▸ List.mem_map.mpr ⟨entry', hmem, rfl⟩)
    rw [hs₁.other _ hne]
    exact hentries entry' (List.mem_cons_of_mem _ hmem)

theorem observeRunning_runs (hs : AllGood s) :
    Runs settings op (observeRunning settings) (fun _ => AllGood) s := by
  refine Safe.seq (Q := fun r s' => r = .ok s.world.handles.rows ∧ s' = s) ?_ ?_ ?_
  · refine call_runs fun env r s' _ _ hexec => ?_
    cases hexec
    exact ⟨rfl, rfl⟩
  · rintro entries s₁ ⟨hok, rfl⟩
    cases hok
    exact observeRounds_runs s₁.world.handles.nodup hs fun entry hmem => Dict.mem_rows_iff.mp hmem
  · rintro e s₁ ⟨he, -⟩
    cases he

/-! ## Heartbeats -/

/-- A live task that is not paused is running or stuck. -/
theorem Account.Unpaused.open {a : Account} (h : a.Unpaused) {task : Task} (hrow : a.row = some task)
    (hlive : task.state.isLive = true) : a.Open := by
  refine ⟨task, hrow, ?_⟩
  have hne := h task hrow
  cases hst : task.state with
  | running => exact Or.inl rfl
  | stuck => exact Or.inr rfl
  | paused => exact absurd hst hne
  | planned | queued | dispatching | done | failed | cancelled | lost =>
    rw [hst] at hlive
    cases hlive

/-- The retirement that a heartbeat asks for never raises, and keeps the status. -/
theorem retireReported_turns (body : WorkerPing) (htid : body.taskId = tid)
    (hopen : (s.account tid).Open) (hs : (s.account tid).Settled tid) :
    Turns settings op tid (retireReported body)
      (fun r a => r = .ok () ∧ a.Settled tid ∧ a.status = (s.account tid).status) s := by
  subst htid
  unfold retireReported
  split
  · exact Turns.ret ⟨rfl, hs, rfl⟩
  · next terminal hterm =>
    refine Turns.value_seq (activeWorkerId_turns _) fun wid s₁ hacc => ?_
    refine Turns.seq (retire_turns wid (UndispatchedLemmas.mapTerminal_requested hterm) true) ?_ ?_
    · rintro committed s₂ hret
      rw [hacc] at hret
      cases committed with
      | none => exact Turns.ret ⟨rfl, hret.settled hs, hret.status⟩
      | some state =>
        refine Turns.mono (recordEvent_turns _ (by decide)
          (hret.moved.row_ne_none hopen.row_ne_none)) ?_
        rintro r a ⟨hr, ha⟩
        exact ⟨hr, ha ▸ hret.settled hs, ha ▸ hret.status⟩
    · rintro e a hret
      rw [hacc] at hret
      obtain ⟨x, hx⟩ := hret.returns hopen
      cases hx

theorem workerPing_runs (authorization : Option String) (body : WorkerPing) (hs : AllGood s) :
    Runs settings op (workerPing settings authorization body) (fun _ => AllGood) s := by
  have hgood : (s.account body.taskId).Good body.taskId := hs body.taskId
  suffices h : Turns settings op body.taskId (workerPing settings authorization body)
      (fun _ => Account.Good body.taskId) s from h.good hs
  refine Turns.mute_seq ((checkPingToken_silent settings authorization).mono mute_of_silent)
    (fun _ s₁ hacc => ?_) fun _ => hgood
  rw [← hacc] at hgood
  refine Turns.mute_seq ((silent_checkId _ _).mono mute_of_silent) (fun _ s₂ hacc => ?_)
    fun _ => hgood
  rw [← hacc] at hgood
  refine getTask_seq ?_
  cases hrow : (s₂.account body.taskId).row with
  | none => exact Around.of_same (fun _ => rfl) hgood
  | some task =>
    dsimp only
    split
    · exact Around.of_same (fun _ => rfl) hgood
    · next hlive =>
      have hopen := hgood.unpaused.open hrow (by simpa using hlive)
      refine Turns.value_seq (activeWorkerId_turns _) fun wid s₄ hacc => ?_
      rw [← hacc] at hgood hopen
      cases wid with
      | none => exact Around.of_same (fun _ => rfl) hgood
      | some wid =>
        refine Turns.done_seq (recordStatus_turns _ hopen.row_ne_none) fun s₅ hacc => ?_
        have hset : (s₅.account body.taskId).Settled body.taskId :=
          hacc ▸ hgood.settled.recorded _
        have hopen : (s₅.account body.taskId).Open := by
          rw [hacc]
          exact hopen
        refine Turns.done_seq (retireReported_turns body rfl hopen hset) fun s₆ ⟨hset, hst⟩ => ?_
        refine Turns.mono (publishEntry_turns hset ?_) fun _ _ ha => ha.2
        rw [hst, hacc]
        rfl

/-! ## Actuation -/

/-- Nothing that is shown has changed. -/
theorem Account.Good.kept {a a' : Account} (h : a.Good tid) (hrow : a'.row = a.row)
    (hst : a'.status = a.status) (hentry : a'.entry = a.entry) (hever : a'.ever = a.ever)
    (hman : a'.Manned tid) : a'.Good tid where
  nameless hname := hever.trans (h.nameless hname)
  shown := by
    intro pid
    have hview : a'.view? = a.view? := by
      unfold Account.view?
      rw [hrow, hst]
    rw [hentry, hever, hview]
    exact h.shown pid
  manned := hman
  unpaused := by
    unfold Account.Unpaused
    rw [hrow]
    exact h.unpaused

theorem Account.Retired.good {terminal : String} {a a' : Account} {r : Except PyErr (Option String)}
    (h : Retired tid terminal a r a') (hs : a.Good tid) (hr : ∀ state, r ≠ .ok (some state)) :
    a'.Good tid :=
  hs.kept (h.kept hr) h.status h.moved.entry h.moved.ever (h.manned hs.manned)

/-- What an actuation does to the account of its task: a refusal leaves it good. -/
structure Account.Steered (tid : TaskId) (a : Account) (r : Except PyErr Actuated) (a' : Account) :
    Prop where
  settled : a'.Settled tid
  status : a'.status = a.status
  present : a.row ≠ none → a'.row ≠ none
  refused : r ≠ .ok (.ok ()) → a'.Good tid

theorem Account.Good.steered {a : Account} (h : a.Good tid) (r : Except PyErr Actuated) :
    Steered tid a r a := ⟨h.settled, rfl, id, fun _ => h⟩

theorem actuateNudge_turns (handle : WorkerHandle) (payload : JsonObj)
    (hs : (s.account tid).Good tid) :
    Turns settings op tid (actuateNudge tid handle payload) (Steered tid (s.account tid)) s := by
  refine Turns.mute_seq (Prog.all_call.mpr trivial).attempt (fun pasted s₁ hacc => ?_)
    fun e => hs.steered _
  rw [← hacc] at hs ⊢
  cases pasted with
  | error exc => exact Turns.ret (hs.steered _)
  | ok _ =>
    refine getTask_seq ?_
    cases hrow : (s₁.account tid).row with
    | none => exact Turns.ret (hs.steered _)
    | some task =>
      dsimp only
      split
      · refine Turns.seq (setTaskState_turns "RUNNING" (some [.stuck])) ?_ ?_
        · rintro stated s₃ hst
          refine Turns.ret ?_
          rcases hst.moved with ⟨hsame, -⟩ | ⟨-, task', st, hrow', -, htr, hmoved⟩
          · rw [hsame]
            exact hs.steered _
          · have hrunning : st = .running := by
              have hname := (transition_eq_ok htr).1
              rw [show TaskState.ofName? "RUNNING" = some .running by decide] at hname
              exact (Option.some.inj hname).symm
            have hm := hmoved.moved hrow' htr
            obtain ⟨now, hmoved'⟩ := hmoved
            rw [hmoved', hrunning] at hm ⊢
            refine ⟨⟨hs.known.moved hm, fun wid h hh => ?_, ?_⟩, rfl, fun _ => nofun,
              fun hr => absurd rfl hr⟩
            · exact ⟨(hs.manned wid h hh).1, _, rfl, Or.inl rfl⟩
            · rintro task'' h''
              cases h''
              exact nofun
        · intro e a hst
          obtain ⟨hsame, -⟩ := hst.moved.resolve_right fun h => (by cases h.1)
          rw [hsame]
          exact hs.steered _
      · exact Turns.ret (hs.steered _)

/-- A stop that succeeds leaves no handle. -/
theorem actuateStop_turns (wid : Option WorkerId) (handle : WorkerHandle)
    (hs : (s.account tid).Good tid) :
    Turns settings op tid (actuateStop tid wid handle)
      (fun r a => Steered tid (s.account tid) r a ∧ (r = .ok (.ok ()) → a.handle = none)) s := by
  refine Turns.mute_seq (Prog.all_call.mpr trivial).attempt (fun stopped s₁ hacc => ?_)
    fun e => ⟨hs.steered _, nofun⟩
  rw [← hacc] at hs ⊢
  cases stopped with
  | error exc => exact Turns.ret ⟨hs.steered _, nofun⟩
  | ok _ =>
    refine Turns.seq (retire_turns wid (Or.inr (by decide)) _) ?_ ?_
    · rintro finalState s₂ hret
      have hpresent : (s₁.account tid).row ≠ none → (s₂.account tid).row ≠ none :=
        hret.moved.row_ne_none
      cases finalState with
      | some state =>
        obtain rfl : state = "CANCELLED" := (hret.asked state rfl).resolve_right (by decide)
        have hended := (hret.ended _ rfl).resolve_left (by decide)
        exact Turns.ret ⟨⟨hret.settled hs.settled, hret.status, hpresent, fun hr => absurd rfl hr⟩,
          fun _ => hended⟩
      | none =>
        -- the retirement was not this call's: only a row that has ended counts as stopped
        have hgood := hret.good hs nofun
        refine getTask_seq ?_
        refine Turns.value_seq (getWorker?_turns wid) fun worker s₄ hacc₄ => ?_
        split
        · next hdone =>
          rw [Bool.and_eq_true] at hdone
          refine Turns.ret ⟨hacc₄ ▸ ⟨hgood.settled, hret.status, hpresent, fun _ => hgood⟩,
            fun _ => ?_⟩
          rw [hacc₄]
          cases hh : (s₂.account tid).handle with
          | none => rfl
          | some entry =>
            -- the task of a registered handle is not terminal
            obtain ⟨-, task, hrow, hstate⟩ := hgood.manned entry.1 entry.2 hh
            rw [hrow] at hdone
            rcases hstate with h | h
            · simp [h, TaskState.isTerminal] at hdone
            · simp [h, TaskState.isTerminal] at hdone
        · exact Turns.ret ⟨hacc₄ ▸ ⟨hgood.settled, hret.status, hpresent, fun _ => hgood⟩, nofun⟩
    · intro e a hret
      have hgood := hret.good hs nofun
      exact ⟨⟨hgood.settled, hret.status, hret.moved.row_ne_none, fun _ => hgood⟩, nofun⟩

/-- No runtime of the registry can pause or resume a worker. -/
theorem actuateSwitch_eq (tid : TaskId) {backend : String} {rt : RuntimeAdapter}
    (hrt : Runtime.get backend = .ok rt) (handle : WorkerHandle) (pause : Bool) :
    ∃ reason, actuateSwitch tid handle rt pause = pure (.error reason) := by
  have hnone : (!(if pause then rt.hasPause else rt.hasResume)) = true := by
    unfold Runtime.get at hrt
    split at hrt
    · next rt' hfind =>
      cases hrt
      have hall : ∀ rt ∈ Runtime.registry, rt.hasPause = false ∧ rt.hasResume = false := by decide
      obtain ⟨hp, hr⟩ := hall rt (List.mem_of_find?_eq_some hfind)
      cases pause
      · simp [hr]
      · simp [hp]
    · cases hrt
  exact ⟨_, if_pos hnone⟩

theorem actuate_turns (action : String) (payload : JsonObj) (hs : (s.account tid).Good tid) :
    Turns settings op tid (actuate tid action payload)
      (fun r a => Steered tid (s.account tid) r a ∧
        (action = "stop" → r = .ok (.ok ()) → a.handle = none)) s := by
  refine Turns.mute_seq (Prog.all_call.mpr trivial) (fun entry s₁ hacc => ?_)
    fun e => ⟨hs.steered _, nofun⟩
  rw [← hacc] at hs ⊢
  cases entry with
  | none => exact Turns.ret ⟨hs.steered _, nofun⟩
  | some entry =>
    obtain ⟨wid, handle⟩ := entry
    dsimp only
    cases hrt : Runtime.get handle.backend with
    | error e => exact Around.of_same (fun _ => rfl) ⟨hs.steered _, nofun⟩
    | ok rt =>
      rw [Prog.ofExcept_ok_bind]
      split
      · next hnudge =>
        refine Turns.mono (actuateNudge_turns handle payload hs) fun r a h => ⟨h, fun hstop => ?_⟩
        exact absurd (hnudge.symm.trans hstop) (by decide)
      · split
        · exact Turns.mono (actuateStop_turns wid handle hs) fun r a h => ⟨h.1, fun _ => h.2⟩
        · next hstop =>
          split
          · obtain ⟨reason, hswitch⟩ := actuateSwitch_eq tid hrt handle true
            rw [hswitch]
            exact Turns.ret ⟨hs.steered _, nofun⟩
          · split
            · obtain ⟨reason, hswitch⟩ := actuateSwitch_eq tid hrt handle false
              rw [hswitch]
              exact Turns.ret ⟨hs.steered _, nofun⟩
            · exact Turns.ret ⟨hs.steered _, nofun⟩

theorem actuateTask_runs (tid : TaskId) (action : String) (payload : Json) (hs : AllGood s) :
    Runs settings op (actuateTask tid action payload) (fun _ => AllGood) s := by
  suffices h : Turns settings op tid (actuateTask tid action payload)
      (fun _ => Account.Good tid) s from h.good hs
  have hgood : (s.account tid).Good tid := hs tid
  refine getTask_seq ?_
  cases hrow : (s.account tid).row with
  | none => exact Around.of_same (fun _ => rfl) hgood
  | some task =>
    have hpresent : (s.account tid).row ≠ none := by
      rw [hrow]
      exact nofun
    dsimp only
    split
    · exact Around.of_same (fun _ => rfl) hgood
    · split
      · next payload =>
        refine Turns.mute_seq (Prog.all_call.mpr trivial) (fun length s₂ hacc => ?_)
          fun _ => hgood
        rw [← hacc] at hgood hpresent
        split
        · exact Around.of_same (fun _ => rfl) hgood
        · split
          · exact Around.of_same (fun _ => rfl) hgood
          · refine Turns.seq (actuate_turns action payload hgood) ?_ ?_
            · rintro actuated s₃ ⟨hsteered, -⟩
              cases actuated with
              | error reason => exact Around.of_same (fun _ => rfl) (hsteered.refused nofun)
              | ok _ =>
                refine Turns.done_seq (recordEvent_turns _ (by decide)
                  (hsteered.present hpresent)) fun s₄ hacc₄ => ?_
                exact Turns.mono (publishEntry_turns (hacc₄ ▸ hsteered.settled) rfl)
                  fun _ _ ha => ha.2
            · exact fun e a h => h.1.refused nofun
      · exact Around.of_same (fun _ => rfl) hgood

/-! ## Deletion -/

/-- The tombstone of the row hides all that is shown of the task. -/
theorem good_of_erased {task : Task} {a : Account} (h : a.Settled tid) (hhandle : a.handle = none)
    (hrow : ∀ row, a.row = some row → row.projectId = task.projectId) :
    (hidden { a with row := none, status := [] } task.projectId).Good tid where
  nameless := h.known.nameless
  manned := manned_of_no_handle hhandle
  unpaused := unpaused_of_no_row rfl
  shown := by
    intro pid
    have hnone : setAt a.entry task.projectId none pid = none := by
      rw [setAt_apply]
      split
      · rfl
      · next hpid =>
        cases hentry : a.entry pid with
        | none => rfl
        | some v =>
          obtain ⟨-, row, hsome, hproject⟩ := h.known.entry pid v hentry
          exact absurd (hproject.symm.trans (hrow row hsome)) hpid
    rw [show (hidden { a with row := none, status := [] } task.projectId).entry pid = none from hnone]
    exact (ite_self none).symm

/-- Without a name nothing is shown. -/
theorem good_of_nameless {a : Account} (h : a.Settled tid) (hname : tid = "")
    (hhandle : a.handle = none) : { a with row := none, status := [] }.Good tid where
  nameless := h.known.nameless
  manned := manned_of_no_handle hhandle
  unpaused := unpaused_of_no_row rfl
  shown := by
    intro pid
    have hever := h.known.nameless hname
    rw [show ({ a with row := none, status := [] } : Account).ever = false from hever]
    cases hentry : a.entry pid with
    | none => rfl
    | some v =>
      have hshown := (h.known.entry pid v hentry).1
      rw [hever] at hshown
      cases hshown

theorem eraseTask_turns {task : Task} (hid : task.id = tid) (h : (s.account tid).Settled tid)
    (hhandle : (s.account tid).handle = none) :
    Turns settings op tid (eraseTask tid task) (fun _ => Account.Good tid) s := by
  refine getTask_seq ?_
  refine Turns.value_seq (kept_turns (q := .statusEvents tid 1) trivial (fun _ => rfl) trivial
    fun _ _ => ⟨_, rfl⟩) fun events s₂ hacc => ?_
  refine Turns.seq (Q := fun r a => r = .ok () ∧
    a = { s.account tid with row := none, status := [] }) ?_ ?_ ?_
  · refine call_runs fun env r s₃ ha _ hexec => ?_
    have hdel := account_delete (Option.isNone_iff_eq_none.mp ha) hexec
    refine ⟨⟨(hdel tid).1, (hdel tid).2.trans ?_⟩, fun tid' hne => ?_⟩
    · rw [if_pos rfl, hacc]
    · exact (hdel tid').2.trans (if_neg hne)
  · rintro _ s₃ ⟨-, hacc₃⟩
    refine call_runs fun env r s₄ ha _ hexec => ?_
    obtain ⟨-, rfl⟩ := account_publish (Option.isNone_iff_eq_none.mp ha) hexec
    have hids : ((s.account tid).row.getD task).id = tid := by
      cases hrow : (s.account tid).row with
      | none => exact hid
      | some row => exact account_row_id hrow
    have htomb (tid' : TaskId) : (s₃.publish (.tombstone ((s.account tid).row.getD task)
        ((events.getLast?.map Event.payload).getD []))).account tid' =
        if tid' = tid ∧ tid' ≠ "" then
          (s₃.account tid').hidden ((s.account tid).row.getD task).projectId
        else s₃.account tid' := by
      have hall := account_tombstone (s := s₃) ((s.account tid).row.getD task)
        ((events.getLast?.map Event.payload).getD []) tid'
      rwa [hids] at hall
    refine ⟨?_, fun tid' hne => (htomb tid').trans (if_neg fun h => hne h.1)⟩
    rw [htomb tid, hacc₃]
    split
    · refine good_of_erased h hhandle fun row hrow => ?_
      rw [hrow]
      rfl
    · next hno => exact good_of_nameless h (by simpa using hno) hhandle
  · rintro e a ⟨he, -⟩
    cases he

/-- A stop before the deletion leaves no handle, or it is refused and the task stays as shown. -/
theorem stopForDelete_turns (hs : (s.account tid).Good tid) :
    Turns settings op tid (stopForDelete tid)
      (fun r a => (r = .ok () → a.Settled tid ∧ a.handle = none) ∧ (r ≠ .ok () → a.Good tid)) s := by
  refine Turns.attempt_seq (actuate_turns "stop" [] hs) fun stopped s₁ ⟨hsteered, hhandle⟩ => ?_
  rcases stopped with exc | reason | _
  · exact Around.of_same (fun _ => rfl) ⟨nofun, fun _ => hsteered.refused nofun⟩
  · exact Around.of_same (fun _ => rfl) ⟨nofun, fun _ => hsteered.refused nofun⟩
  · exact Turns.ret ⟨fun _ => ⟨hsteered.settled, hhandle rfl rfl⟩, fun h => absurd rfl h⟩

/-- A task is erased after its worker was stopped, or without a worker. -/
theorem deleteTask_runs (tid : TaskId) (hs : AllGood s) :
    Runs settings op (deleteTask tid) (fun _ => AllGood) s := by
  suffices h : Turns settings op tid (deleteTask tid) (fun _ => Account.Good tid) s from h.good hs
  have hstop (s₁ : Published) (task : Task) (hid : task.id = tid)
      (hgood : (s₁.account tid).Good tid) :
      Turns settings op tid (stopForDelete tid >>= fun _ => eraseTask tid task)
        (fun _ => Account.Good tid) s₁ := by
    refine Turns.seq (stopForDelete_turns hgood) ?_ fun e a h => h.2 nofun
    rintro _ s₂ ⟨hdone, -⟩
    exact eraseTask_turns hid (hdone rfl).1 (hdone rfl).2
  have hgood : (s.account tid).Good tid := hs tid
  refine getTask_seq ?_
  cases hrow : (s.account tid).row with
  | none => exact Around.of_same (fun _ => rfl) hgood
  | some task =>
    have hid : task.id = tid := account_row_id hrow
    dsimp only
    split
    · exact hstop s task hid hgood
    · next hidle =>
      refine Turns.value_seq (activeWorkerId_turns tid) fun wid s₂ hacc => ?_
      rw [← hacc] at hgood hrow
      cases wid with
      | some wid => exact hstop s₂ task hid hgood
      | none =>
        refine eraseTask_turns hid hgood.settled ?_
        cases hh : (s₂.account tid).handle with
        | none => rfl
        | some entry =>
          obtain ⟨-, task', hrow', hstate⟩ := hgood.manned entry.1 entry.2 hh
          cases hrow.symm.trans hrow'
          rcases hstate with h | h <;> simp [TaskState.isActive, TaskState.isLive, h] at hidle

/-! ## Several tasks -/

/-- The tasks of `D` wait to be published; the others are shown as they are. -/
structure Pending (D : List TaskId) (s : Published) : Prop where
  settled : ∀ tid, (s.account tid).Settled tid
  good : ∀ tid, tid ∉ D → (s.account tid).Good tid

theorem Pending.allGood (h : Pending [] s) : AllGood s := fun tid => h.good tid List.not_mem_nil

/-- One of them is published. -/
theorem Pending.published {D : List TaskId} {s' : Published} (h : Pending (tid :: D) s)
    (hs : Around s tid (Account.Good tid) s') : Pending D s' where
  settled tid' := by
    by_cases heq : tid' = tid
    · exact heq ▸ hs.own.settled
    · exact hs.other tid' heq ▸ h.settled tid'
  good tid' hnotin := by
    by_cases heq : tid' = tid
    · exact heq ▸ hs.own
    · exact hs.other tid' heq ▸ h.good tid' (by simp [heq, hnotin])

theorem publishTask_turns (h : (s.account tid).Settled tid) :
    Turns settings op tid (publishTask tid) (fun r a => r = .ok () ∧ a.Good tid) s :=
  Turns.ignoring (Turns.mono (publishCurrent_turns h rfl) fun _ _ ha => ha.2)

theorem publishTasks_runs : ∀ {D : List TaskId} {s : Published}, Pending D s →
    Runs settings op (publishTasks D) (fun r s' => r = .ok () ∧ AllGood s') s
  | [], _, h => ⟨rfl, h.allGood⟩
  | tid :: _, _, h => by
    refine Safe.seq (publishTask_turns (h.settled tid)) (fun _ s₁ hs₁ => ?_)
      fun e s₁ hs₁ => (by cases hs₁.own.1)
    exact publishTasks_runs (h.published (hs₁.mono fun _ ha => ha.2))

/-! ## Creation -/

/-- A row that was not there is inserted. -/
theorem Account.Good.created {a : Account} (h : a.Good tid) (hrow : a.row = none) {task : Task}
    (hstate : task.state ≠ .paused) : { a with row := some task }.Settled tid where
  known := by
    refine ⟨h.nameless, fun pid v hv => ?_⟩
    obtain ⟨-, row, hsome, -⟩ := h.known.entry pid v hv
    rw [hrow] at hsome
    cases hsome
  manned := by
    intro wid handle hh
    obtain ⟨-, row, hsome, -⟩ := h.manned wid handle hh
    rw [hrow] at hsome
    cases hsome
  unpaused := by
    rintro row ⟨⟩
    exact hstate

/-- The tasks of a batch are published as they were inserted, with no status. -/
theorem publishCreated_runs : ∀ {tasks : List Task} {s : Published},
    Pending (tasks.map Task.id) s →
    (∀ task ∈ tasks, (s.account task.id).row = some task ∧ (s.account task.id).status = []) →
    Runs settings op (publishCreated tasks) (fun _ => AllGood) s
  | [], _, h, _ => h.allGood
  | task :: tasks, s, h, hrows => by
    obtain ⟨hrow, hst⟩ := hrows task List.mem_cons_self
    have hpublish : Turns settings op task.id (.call (.publish (.task task (some []))))
        (fun r a => r = .ok () ∧ a = (s.account task.id).republished (some [])) s := by
      refine call_runs fun env r s₁ ha _ hexec => ?_
      obtain ⟨rfl, rfl⟩ := account_publish (Option.isNone_iff_eq_none.mp ha) hexec
      have hacc := account_publishTask (s := s) task (some [])
      refine ⟨⟨rfl, (hacc task.id).trans ((if_pos rfl).trans ?_)⟩,
        fun tid' hne => (hacc tid').trans (if_neg hne)⟩
      rw [Account.republished, hrow]
      rfl
    refine Safe.seq hpublish (fun _ s₁ hs₁ => ?_) fun e s₁ hs₁ => (by cases hs₁.own.1)
    have hgood : Around s task.id (Account.Good task.id) s₁ := hs₁.mono fun a ha =>
      ha.2 ▸ (h.settled task.id).good_republished (fun _ => account_row_id) hst.symm
    refine publishCreated_runs (h.published hgood) fun task' hmem => ?_
    obtain ⟨hrow', hst'⟩ := hrows task' (List.mem_cons_of_mem _ hmem)
    -- a publication changes neither the row nor the status of its own task
    by_cases heq : task'.id = task.id
    · rw [heq] at hrow' hst' ⊢
      rw [hs₁.own.2]
      exact ⟨republished_row.trans hrow', republished_status.trans hst'⟩
    · rw [hs₁.other _ heq]
      exact ⟨hrow', hst'⟩

theorem validateAll_ids (pid : String) (items : List TaskCreate) :
    (validateAll settings pid items).Returns fun tasks =>
      tasks.map Task.id = items.map TaskCreate.id ∧ ∀ task ∈ tasks, task.state = .queued := by
  induction items with
  | nil => exact ⟨rfl, fun task h => (by cases h)⟩
  | cons item items ih =>
    refine Prog.Returns.bind (R := fun task => task.id = item.id ∧ task.state = .queued) ?_
      fun task htask => Prog.Returns.bind ih fun tasks htasks => ?_
    · unfold validateTaskCreate
      refine Prog.Returns.bind (Prog.returns_any _) fun _ _ => ?_
      refine Prog.Returns.bind (Prog.returns_any _) fun _ _ => ?_
      refine Prog.Returns.bind (Prog.returns_any _) fun _ _ => ?_
      refine Prog.Returns.bind (Prog.returns_any _) fun _ _ => ?_
      refine Prog.Returns.bind (Prog.returns_any _) fun _ _ => ?_
      exact Prog.Returns.bind (Prog.returns_any _) fun _ _ => ⟨rfl, rfl⟩
    · refine ⟨?_, List.forall_mem_cons.mpr ⟨htask.2, htasks.2⟩⟩
      rw [List.map_cons, List.map_cons, htask.1, htasks.1]

/-- The batch is inserted as a whole, or not at all. -/
theorem insertTasks_runs {tasks : List Task} (hnodup : (tasks.map Task.id).Nodup)
    (hqueued : ∀ task ∈ tasks, task.state = .queued) (hs : AllGood s) :
    Runs settings op (store (.createTasks tasks)) (fun r s' => (r ≠ .ok () → AllGood s') ∧
      (r = .ok () → Pending (tasks.map Task.id) s' ∧
        ∀ task ∈ tasks, (s'.account task.id).row = some task ∧
          (s'.account task.id).status = [])) s := by
  refine call_runs fun env r s' ha _ hexec => ?_
  have hacc := account_store (q := .createTasks tasks) trivial hexec
  obtain ⟨db', htx, rfl⟩ := exec_store_of_isNone ha hexec
  rcases StoreLemmas.createTasks_cases htx with ⟨rfl, hr⟩ | ⟨rfl, -, -, hrows, hnew⟩
  · exact ⟨fun _ => hs, fun h => absurd h hr⟩
  refine ⟨fun h => absurd rfl h, fun _ => ?_⟩
  have hfind (task : Task) (hmem : task ∈ tasks) :
      (tasks.find? fun t => t.id = task.id) = some task := by
    have hsome : (tasks.find? fun t => t.id = task.id).isSome = true :=
      List.find?_isSome.mpr ⟨task, hmem, by simp⟩
    obtain ⟨found, hfound⟩ := Option.isSome_iff_exists.mp hsome
    have hid : found.id = task.id := by simpa using List.find?_some hfound
    rw [hfound, List.inj_on_of_nodup_map hnodup (List.mem_of_find?_eq_some hfound) hmem hid]
  have hrow (task : Task) (hmem : task ∈ tasks) : db'.task? task.id = some task := by
    rw [hrows, hnew task hmem, Option.none_or, hfind task hmem]
  have hother (tid : TaskId) (hnotin : tid ∉ tasks.map Task.id) :
      db'.task? tid = s.world.db.task? tid := by
    have hnone : (tasks.find? fun t => t.id = tid) = none := by
      refine List.find?_eq_none.mpr fun t ht hid => hnotin ?_
      exact List.mem_map.mpr ⟨t, ht, by simpa using hid⟩
    rw [hrows, hnone, Option.or_none]
  have hsame (tid : TaskId) (hnotin : tid ∉ tasks.map Task.id) :
      { s.account tid with row := db'.task? tid } = s.account tid :=
    Account.ext (hother tid hnotin) rfl rfl rfl rfl
  have hinserted (task : Task) (hmem : task ∈ tasks) :
      { s.account task.id with row := db'.task? task.id }.Settled task.id := by
    rw [hrow task hmem]
    refine (hs task.id).created (hnew task hmem) ?_
    rw [hqueued task hmem]
    exact nofun
  refine ⟨⟨fun tid => ?_, fun tid hnotin => ?_⟩, fun task hmem => ?_⟩
  · rw [hacc tid]
    by_cases hin : tid ∈ tasks.map Task.id
    · obtain ⟨task, hmem, rfl⟩ := List.mem_map.mp hin
      exact hinserted task hmem
    · exact hsame tid hin ▸ (hs tid).settled
  · rw [hacc tid]
    exact hsame tid hnotin ▸ hs tid
  · rw [hacc task.id]
    exact ⟨hrow task hmem, latestStatus_of_no_task (hnew task hmem)⟩

theorem createTasks_runs (pid : String) (tasks : List TaskCreate) (hs : AllGood s) :
    Runs settings op (createTasks settings pid tasks) (fun _ => AllGood) s := by
  have hmute {α β : Type} {p : Program α} {f : α → Program β} {s : Published} (hs : AllGood s)
      (hp : p.All Act.Silent)
      (hf : ∀ a s', AllGood s' → Runs settings op (f a) (fun _ => AllGood) s') :
      Runs settings op (p >>= f) (fun _ => AllGood) s := by
    have hgood {s' : Published} (h : Same s s') : AllGood s' := fun tid => h tid ▸ hs tid
    exact Safe.seq (silent_runs hp) (fun a s' h => hf a s' (hgood h)) fun _ s' h => hgood h
  refine hmute hs (silent_checkId _ _) fun _ s hs => ?_
  split
  · exact hs
  · split
    · exact hs
    · refine hmute hs (silent_store trivial) fun project s hs => ?_
      cases project with
      | none => exact hs
      | some project =>
        dsimp only
        split
        · exact hs
        · next hdistinct =>
          refine hmute hs (silent_store trivial) fun existing s hs => ?_
          split
          · exact hs
          · have hvalid : Runs settings op (validateAll settings pid tasks) (fun _ => AllGood) s :=
              Safe.mono (silent_runs (validateAll_silent settings pid tasks))
                fun _ s' h tid => h tid ▸ hs tid
            refine Safe.seq (Safe.and_returns (validateAll_ids pid tasks) hvalid)
              (fun prepared s h => ?_) fun _ s h => h.1
            obtain ⟨hids, hqueued⟩ := h.2 prepared rfl
            have hnodup : (prepared.map Task.id).Nodup := by
              rw [hids]
              simpa using hdistinct
            refine Safe.seq (Safe.attempt (R := fun r s' => ∃ x, r = .ok x ∧
              (x ≠ .ok () → AllGood s') ∧ (x = .ok () → Pending (prepared.map Task.id) s' ∧
                ∀ task ∈ prepared, (s'.account task.id).row = some task ∧
                  (s'.account task.id).status = [])) (Safe.mono
              (insertTasks_runs hnodup hqueued h.1) fun r s' h => ⟨r, rfl, h⟩)) ?_ ?_
            · rintro created s ⟨_, hok, hfailed, hcreated⟩
              cases hok
              cases created with
              | error exc =>
                dsimp only
                split
                · exact hfailed nofun
                · exact hfailed nofun
              | ok _ =>
                obtain ⟨hpending, hrows⟩ := hcreated rfl
                exact Safe.seq (publishCreated_runs hpending hrows) (fun _ s h => h) fun _ s h => h
            · rintro e s ⟨_, he, -⟩
              cases he

end Sinks

end Flotilla
