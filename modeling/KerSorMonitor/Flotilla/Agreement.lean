import KerSorMonitor.Flotilla.Acceptance
import KerSorMonitor.Runtime.TmuxStart

/-!
# Two layers of checks (`flotilla/routes.py`, `flotilla/scheduler.py`, `flotilla/runtime/tmux_claude.py`)

What a request was accepted with is checked again when its task is dispatched: by
`_resolve_dispatch`, by `GpuResource.acquire`, by `ClaudeCodeTmuxRuntime.start` and by `_ssh`. A
`KeyError` or `ValueError` there fails the task for good.

Results:
1. `resolveDispatch_accepts`: the resolution raises none for a task that was accepted.
2. `startsCleanly_iff`: the start raises none iff `_ssh` takes the alias of the host.
3. `agreement_iff`: the two layers accept the same iff the alias begins with a letter or digit.
-/

namespace Flotilla

open Keyed Threads
open Prog (call)

namespace Agreement

/-! ## What is dispatched -/

/-- The error is one that a dispatch takes for final. -/
def IsFinal (e : PyErr) : Prop := e.cls.isKeyOrValueError = true

/-- The workspace of a task and the ssh alias of its host. -/
def location (settings : Settings) (host : Host) (task : Task) : String × Option String :=
  match nonEmpty? task.targetHost with
  | none => (settings.workspacesRoot ++ "/ws_" ++ task.id, none)
  | some _ => (host.remoteRoot ++ "/ws_" ++ task.id, some host.sshAlias)

/-- What `_dispatch` calls `rt.start` with. -/
def startArgs (task : Task) (location : String × Option String) : Tmux.StartArgs where
  taskId := task.id
  workspace := location.1
  host := location.2
  spec := task.spec
  metadata := task.metadata

/-- The host of the task is in the database as it was created. -/
def Hosts (host : Host) (task : Task) (w : World) : Prop :=
  ∀ hid, nonEmpty? task.targetHost = some hid → w.db.host.get? hid = some host

/-- No check of `ClaudeCodeTmuxRuntime.start` or `_ssh` raises, whatever the calls that it makes
answer, if they raise nothing of the kind themselves. -/
def StartsCleanly (settings : Settings) (args : Tmux.StartArgs) : Prop :=
  ∀ (start : Tmux.StartSettings), start.allowTaskBootCommand = settings.allowTaskBootCommand →
    ∀ times loose t fates h r h',
      (∀ fate ∈ fates, ∀ exc, fate = Tmux.Fate.raised exc → ¬ IsFinal exc) →
      (Tmux.start start args times).perform (Tmux.server loose) t fates h = some (r, h') →
      ∀ e, r = .error e → ¬ IsFinal e

/-- No check of a dispatch raises: neither those of its resolution nor those of its start. -/
def Dispatches (settings : Settings) (host : Host) (task : Task) : Prop :=
  ∀ w, Hosts host task w → ∀ wid t envs r w',
    (resolveDispatch settings task wid).perform (process settings) t envs w = some (r, w') →
      (∀ e, r = .error e → ¬ IsFinal e) ∧
      ∀ d, r = .ok (some d) → d.rt.name = "claude_tmux" →
        StartsCleanly settings (startArgs d.task (d.wsPath, d.sshHost))

/-! ## The resolution -/

variable {settings : Settings} {host : Host} {task : Task}

/-- Nothing is asked of the environment of an action. -/
private def anyEnv : {β : Type} → Act β → Env → World → Prop := fun _ _ _ => True

/-- The end of a program that raises no final error, and returns only values of `R`. -/
def Ends {α : Type} (R : α → Prop) : Except PyErr α → Prop
  | .ok a => R a
  | .error e => ¬ IsFinal e

/-- A dispatch is that of the task, at its location, with its runtime. -/
def IsDispatchOf (settings : Settings) (host : Host) (task : Task) (d : Dispatch) : Prop :=
  d.task = task ∧ Runtime.get task.runtime = .ok d.rt ∧
    (d.wsPath, d.sshHost) = location settings host task

theorem getHost_ends {t : ThreadId} {w : World} {hid : String}
    (hrow : w.db.host.get? hid = some host) :
    Safe (.alone (process settings) t anyEnv) t (store (.getHost hid))
      (fun r _ => Ends (fun found => found = some host) r) w := by
  refine Alone.call fun env r s' _ hexec => ?_
  have hr : (World.exec settings env (.store (.getHost hid)) w).1 = r := congrArg Prod.fst hexec
  rw [← hr]
  cases hraises : env.raises with
  | some e => simp [World.exec, hraises, Ends, IsFinal]; decide
  | none => simp [World.exec, hraises, Transaction.exec, Transaction.reading, Store.getHost, hrow,
      Ends]

theorem resolveHost_ends {t : ThreadId} {w : World} (hhost : Hosts host task w) :
    Safe (.alone (process settings) t anyEnv) t (resolveHost settings task)
      (fun r _ => Ends (fun l => l = location settings host task) r) w := by
  unfold resolveHost location
  cases htarget : nonEmpty? task.targetHost with
  | none => exact rfl
  | some hid =>
    refine Safe.seq (getHost_ends (hhost hid htarget)) (fun found s hfound => ?_) fun _ _ h => h
    have hfound' : found = some host := hfound
    rw [hfound']
    exact rfl

theorem truthy_of_isSafeId {s : String} (h : Resource.isSafeId s = true) :
    (Json.str s).truthy = true := by
  have hempty : Resource.isSafeId "" = false := by decide
  have hne : s ≠ "" := by
    rintro rfl
    rw [hempty] at h
    cases h
  exact bne_iff_ne.mpr hne

/-- A checked UUID is a text of safe characters. -/
theorem safeUuid {req : JsonObj}
    (h : ((req.get? "uuid").bind Json.str?).any Resource.isSafeId = true) :
    ∃ uuid, req.get? "uuid" = some (.str uuid) ∧ Resource.isSafeId uuid = true := by
  cases hget : req.get? "uuid" with
  | none => simp [hget] at h
  | some v =>
    cases v with
    | str uuid => exact ⟨uuid, rfl, by simpa [hget, Json.str?] using h⟩
    | _ => simp [hget, Json.str?] at h

/-- The acquisition raises nothing final for a requirement that was checked. -/
theorem acquire_ends {t : ThreadId} {w : World} {adapter : String} {wid : WorkerId}
    {req : JsonObj}
    (hreq : adapter = "gpu" → ((req.get? "uuid").bind Json.str?).any Resource.isSafeId = true) :
    Safe (.alone (process settings) t anyEnv) t (call (.acquire adapter wid req))
      (fun r _ => Ends (fun _ => True) r) w := by
  refine Alone.call fun env r s' _ hexec => ?_
  have hr : (w.acquire adapter wid req env).1 = r := congrArg Prod.fst hexec
  rw [← hr]
  unfold World.acquire
  by_cases hgpu : adapter = "gpu"
  · rw [if_pos hgpu]
    obtain ⟨uuid, huuid, hsafe⟩ := safeUuid (hreq hgpu)
    have htruthy := truthy_of_isSafeId hsafe
    have hstr : (Json.str uuid).str? = some uuid := rfl
    simp only [huuid, htruthy, Bool.not_true, Bool.false_eq_true, if_false, hstr, hsafe]
    by_cases hheld : (Dict.get? w.held uuid).isSome = true
    · rw [if_pos hheld]
      trivial
    · rw [if_neg hheld]
      cases env.raises with
      | some e =>
        have hos : ¬ ExcClass.osError.isKeyOrValueError = true := by decide
        exact hos
      | none =>
        dsimp only
        split <;> trivial
  · rw [if_neg hgpu]
    trivial

/-- The requirement of a GPU that was checked has a UUID. -/
theorem gpu_has_uuid (hchecked : Checked settings task) :
    (task.resourceKind.any (fun k => k.str? = some "gpu") &&
      !((task.resourceReq.get? "uuid").any Json.truthy)) = false := by
  rw [Bool.and_eq_false_iff]
  cases hkind : task.resourceKind with
  | none => exact Or.inl rfl
  | some kind =>
    by_cases hgpu : kind.str? = some "gpu"
    · right
      obtain ⟨adapter, hadapter, hsafe⟩ := hchecked.resource kind hkind
      have hstr : kind = .str "gpu" := by
        cases kind with
        | str s => exact congrArg Json.str (Option.some.inj hgpu)
        | _ => cases hgpu
      have hgpu' : adapter = "gpu" := by
        rw [hstr] at hadapter
        exact (Except.ok.inj hadapter).symm
      obtain ⟨uuid, huuid, huuidSafe⟩ := safeUuid (hsafe hgpu')
      simp [huuid, truthy_of_isSafeId huuidSafe]
    · exact Or.inl (by simp [hgpu])

/-- The resource of a checked task. -/
theorem resolveAdapter_of_checked (hchecked : Checked settings task) :
    ∃ adapter, resolveAdapter task = .ok adapter ∧ ∀ kind, adapter = some kind →
      kind = "gpu" →
        ((task.resourceReq.get? "uuid").bind Json.str?).any Resource.isSafeId = true := by
  unfold resolveAdapter
  cases hkind : task.resourceKind with
  | none => exact ⟨none, rfl, fun _ h => by cases h⟩
  | some kind =>
    obtain ⟨adapter, hadapter, hsafe⟩ := hchecked.resource kind hkind
    refine ⟨some adapter, by simp [hadapter], ?_⟩
    rintro _ ⟨⟩
    exact hsafe

/-- A runtime that works with the host of the task is not refused. -/
theorem supported_of_remote {rt : RuntimeAdapter}
    (hremote : (nonEmpty? task.targetHost).isSome = true → rt.supportsRemote = true) :
    ((nonEmpty? (location settings host task).2).isSome && !rt.supportsRemote) = false := by
  unfold location
  cases htarget : nonEmpty? task.targetHost with
  | none => rfl
  | some hid =>
    rw [hremote (by rw [htarget]; rfl)]
    exact Bool.and_false _

/-- The resolution raises nothing final for a task that was checked, whose host is there. -/
theorem resolveDispatch_ends {t : ThreadId} {w : World} (hchecked : Checked settings task)
    (hhost : Hosts host task w) (wid : WorkerId) :
    Safe (.alone (process settings) t anyEnv) t (resolveDispatch settings task wid)
      (fun r _ => Ends (fun found => ∀ d, found = some d → IsDispatchOf settings host task d) r)
      w := by
  obtain ⟨rt, hrt, hremote⟩ := hchecked.runtime
  unfold resolveDispatch
  rw [hrt, Prog.ofExcept_ok_bind, if_neg (by rw [gpu_has_uuid hchecked]; decide)]
  obtain ⟨adapter, hresolved, hsafe⟩ := resolveAdapter_of_checked hchecked
  rw [hresolved, Prog.ofExcept_ok_bind]
  refine Safe.seq (resolveHost_ends hhost) (fun l s hl => ?_) fun _ _ h => h
  obtain ⟨wsPath, sshHost⟩ := l
  have hlocation : (wsPath, sshHost) = location settings host task := hl
  have hdispatch (lock : Option Lock) : IsDispatchOf settings host task
      ⟨task, wid, rt, wsPath, sshHost, lock⟩ :=
    ⟨rfl, hrt, hlocation⟩
  have hsupported : ((nonEmpty? sshHost).isSome && !rt.supportsRemote) = false := by
    have hssh : sshHost = (location settings host task).2 := congrArg Prod.snd hlocation
    rw [hssh]
    exact supported_of_remote hremote
  dsimp only
  rw [if_neg (by rw [hsupported]; decide)]
  cases adapter with
  | none =>
    rintro _ ⟨⟩
    exact hdispatch none
  | some kind =>
    refine Safe.seq (acquire_ends (hsafe kind rfl)) (fun lock s _ => ?_) fun _ _ h => h
    cases lock with
    | none => exact fun d h => (by cases h)
    | some lock =>
      rintro _ ⟨⟩
      exact hdispatch (some lock)

/-! ## The start -/

section Start

open Tmux

/-- The program raises nothing final of its own. -/
abbrev Clean {α : Type} (p : RuntimeProgram α) : Prop := p.Throws fun e => ¬ IsFinal e

theorem clean_pure {α : Type} (a : α) : Clean (pure a) := trivial

theorem clean_throw {α : Type} {e : PyErr} (h : e.cls.isKeyOrValueError = false) :
    Clean (Prog.throw e : RuntimeProgram α) := fun hfinal => by
  rw [IsFinal, h] at hfinal
  cases hfinal

theorem clean_sshAttempts (host : String) (cmd : Command) (retries : Nat) :
    Clean (sshAttempts host cmd retries) := by
  induction retries with
  | zero => exact Prog.throws_call _
  | succ retries ih =>
    refine Prog.Throws.bind (Prog.throws_call _) fun r => ?_
    split
    · exact ih
    · exact clean_pure r

/-- `_ssh` raises nothing final on an alias that it takes. -/
theorem clean_ssh {host : String} (hhost : isAlias host = true) (cmd : Command) :
    Clean (ssh host cmd) := by
  unfold ssh
  rw [if_neg (by simp [hhost])]
  refine Prog.Throws.bind (clean_sshAttempts _ _ _) fun r => ?_
  split
  · exact clean_pure r
  · exact clean_throw rfl

theorem clean_paneOf (target stdout : String) : Clean (paneOf target stdout) := by
  unfold paneOf
  split
  · exact clean_pure _
  · exact clean_throw rfl

theorem clean_checkedRun (args : List String) (cmd : Command) : Clean (checkedRun args cmd) := by
  refine Prog.Throws.bind (Prog.throws_call _) fun r => ?_
  split
  · exact clean_pure r
  · exact clean_throw rfl

theorem clean_prepareRemote {host : String} (hhost : isAlias host = true) (l : Launch) :
    Clean (prepareRemote host l) := by
  refine Prog.Throws.bind (clean_ssh hhost _) fun _ => ?_
  refine Prog.Throws.bind (clean_ssh hhost _) fun _ => ?_
  refine Prog.Throws.bind (clean_ssh hhost _) fun _ => ?_
  refine Prog.Throws.bind (clean_ssh hhost _) fun _ => ?_
  refine Prog.Throws.bind (clean_ssh hhost _) fun _ => ?_
  refine Prog.Throws.bind (clean_ssh hhost _) fun _ => ?_
  exact Prog.Throws.bind (clean_ssh hhost _) fun _ => clean_pure _

theorem clean_openRemote {host : String} (hhost : isAlias host = true) (l : Launch) :
    Clean (openRemote host l) := by
  refine Prog.Throws.bind (clean_ssh hhost _) fun _ => ?_
  exact Prog.Throws.bind (clean_ssh hhost _) fun _ => clean_paneOf _ _

theorem clean_localFiles (l : Launch) : Clean (localFiles l) := by
  unfold localFiles
  repeat refine Prog.Throws.bind (Prog.throws_call _) fun _ => ?_
  exact Prog.throws_call _

theorem clean_localSession (sess : String) : Clean (localSession sess) := by
  refine Prog.Throws.bind (Prog.throws_call _) fun r => ?_
  split
  · exact clean_pure _
  · exact Prog.Throws.bind (clean_checkedRun _ _) fun _ => clean_pure _

theorem clean_prepareLocal (l : Launch) : Clean (prepareLocal l) := by
  refine Prog.Throws.bind (clean_localFiles l) fun _ => ?_
  refine Prog.Throws.bind (clean_localSession _) fun _ => ?_
  exact Prog.Throws.bind (Prog.throws_call _) fun _ => clean_pure _

theorem clean_openLocal (l : Launch) : Clean (openLocal l) := by
  refine Prog.Throws.bind (clean_checkedRun _ _) fun _ => ?_
  exact Prog.Throws.bind (clean_checkedRun _ _) fun _ => clean_paneOf _ _

/-- There is no host, or `_ssh` takes its alias. -/
def Reachable (host : Option String) : Prop := ∀ name, host = some name → isAlias name = true

variable {onHost : Option String} (hreach : Reachable onHost)

include hreach

theorem clean_onPane (cmd : Command) : Clean (onPane onHost cmd) := by
  unfold onPane
  cases onHost with
  | none => exact Prog.throws_call _
  | some name => exact clean_ssh (hreach name rfl) cmd

theorem clean_sendKeys (pane : String) (keys : List String) :
    Clean (sendKeys onHost pane keys) := by
  induction keys with
  | nil => exact clean_pure ()
  | cons key keys ih => exact Prog.Throws.bind (clean_onPane hreach _) fun _ => ih

theorem clean_answerPrompts (pane : String) (checks : List (String × List String)) :
    Clean (answerPrompts onHost pane checks) := by
  induction checks with
  | nil => exact clean_pure ()
  | cons check checks ih =>
    refine Prog.Throws.bind (clean_onPane hreach _) fun cap => ?_
    split
    · exact Prog.Throws.bind (clean_sendKeys hreach _ _) fun _ => ih
    · exact ih

theorem clean_openWorker (l : Launch) : Clean (openWorker onHost l) := by
  unfold openWorker
  cases onHost with
  | none => exact Prog.Throws.bind (clean_prepareLocal l) fun _ => clean_openLocal l
  | some name =>
    exact Prog.Throws.bind (clean_prepareRemote (hreach name rfl) l) fun _ =>
      clean_openRemote (hreach name rfl) l

omit hreach

/-- The accepted values of `effort` are those of `start`. -/
theorem effortFlag_of_isEffort {metadata : JsonObj}
    (h : isEffort (metadata.get? "effort") = true) : ∃ flag, effortFlag metadata = .ok flag := by
  unfold effortFlag
  cases hget : metadata.get? "effort" with
  | none => exact ⟨_, rfl⟩
  | some effort =>
    rw [hget] at h
    cases effort with
    | null => exact ⟨_, rfl⟩
    | str s =>
      by_cases hempty : s = ""
      · subst hempty
        exact ⟨_, rfl⟩
      · have htruthy : (Json.str s).truthy = true := bne_iff_ne.mpr hempty
        have hmem : ["low", "medium", "high", "xhigh", "max"].contains s = true := by
          simpa [isEffort, hempty] using h
        simp only [htruthy, hmem, Bool.not_true, Bool.false_eq_true, if_false, if_true]
        exact ⟨_, rfl⟩
    | _ => cases h

theorem chosenBootCommand_of_checked {start : StartSettings} {args : StartArgs}
    (hargs : args.bootCommand = none) (h : (args.metadata.get? "boot_command").isSome = true →
      start.allowTaskBootCommand = true) : ∃ boot, chosenBootCommand start args = .ok boot := by
  unfold chosenBootCommand
  rw [hargs]
  cases hget : args.metadata.get? "boot_command" with
  | none => exact ⟨_, rfl⟩
  | some boot =>
    rw [hget] at h
    simp only [h rfl, Bool.not_true, Bool.false_eq_true, if_false]
    split <;> exact ⟨_, rfl⟩

/-- The effort and the boot command of a checked task are accepted. -/
theorem start_eq_launch {start : StartSettings}
    (hstart : start.allowTaskBootCommand = settings.allowTaskBootCommand)
    (hchecked : Checked settings task) (l : String × Option String) (times : String × String) :
    ∃ flag boot, Tmux.start start (startArgs task l) times =
      launch l.2 (launchOf start (startArgs task l) times flag boot) boot := by
  obtain ⟨flag, hflag⟩ := effortFlag_of_isEffort hchecked.effort
  have hboots : ∃ boot, chosenBootCommand start (startArgs task l) = .ok boot :=
    chosenBootCommand_of_checked rfl fun h => hstart.trans (hchecked.bootCommand h)
  obtain ⟨boot, hboot⟩ := hboots
  have hflag' : effortFlag (startArgs task l).metadata = .ok flag := hflag
  refine ⟨flag, boot, ?_⟩
  unfold Tmux.start
  rw [hflag', Prog.ofExcept_ok_bind, hboot, Prog.ofExcept_ok_bind]
  rfl

/-- The start of a checked task on a host that can be reached. -/
theorem clean_start {start : StartSettings}
    (hstart : start.allowTaskBootCommand = settings.allowTaskBootCommand)
    (hchecked : Checked settings task) {l : String × Option String}
    (hreach : Reachable (nonEmpty? l.2)) (times : String × String) :
    Clean (Tmux.start start (startArgs task l) times) := by
  obtain ⟨flag, boot, hlaunch⟩ := start_eq_launch hstart hchecked l times
  rw [hlaunch]
  refine Prog.Throws.bind (clean_openWorker hreach _) fun pane => ?_
  exact Prog.Throws.bind (clean_answerPrompts hreach _ _) fun _ => clean_pure _

/-- What a call of the runtime raises is what its environment raises, or final in no case. -/
theorem server_exec_error {loose : Loose} {t : ThreadId} {fate : Fate} {β : Type}
    {a : RuntimeAct β} {h : Tmux.Host} {e : PyErr}
    (hfate : ∀ exc, fate = .raised exc → ¬ IsFinal exc)
    (he : ((server loose).exec t a fate h).1 = .error e) : ¬ IsFinal e := by
  have hattempt : ∀ cmd e, (h.attempt loose cmd fate).1 = .error e → ¬ IsFinal e := by
    intro cmd e he
    cases fate with
    | raised exc =>
      obtain rfl : exc = e := Except.error.inj he
      exact hfate exc rfl
    | _ => cases he
  cases a with
  | ssh name cmd => exact hattempt cmd e he
  | run cmd => exact hattempt cmd e he
  | file cmd =>
    have hfile : Tmux.Host.fileResult (h.attempt loose cmd fate).1 = .error e := he
    cases hr : (h.attempt loose cmd fate).1 with
    | error exc =>
      rw [hr] at hfile
      obtain rfl : exc = e := Except.error.inj hfile
      exact hattempt cmd exc hr
    | ok r =>
      rw [hr] at hfile
      unfold Tmux.Host.fileResult at hfile
      dsimp only at hfile
      split at hfile
      · cases hfile
      · obtain rfl := Except.error.inj hfile
        have hos : ¬ ExcClass.osError.isKeyOrValueError = true := by decide
        exact hos

/-- The start on a host whose alias `_ssh` refuses. -/
theorem start_refused {start : StartSettings}
    (hstart : start.allowTaskBootCommand = settings.allowTaskBootCommand)
    (hchecked : Checked settings task) {l : String × Option String} {name : String}
    (hname : nonEmpty? l.2 = some name) (hbad : isAlias name = false) (times : String × String) :
    Tmux.start start (startArgs task l) times =
      .throw ⟨.valueError, "unsafe SSH host alias: " ++ pyRepr name⟩ := by
  obtain ⟨flag, boot, hlaunch⟩ := start_eq_launch hstart hchecked l times
  have hssh (cmd : Command) :
      ssh name cmd = .throw ⟨.valueError, "unsafe SSH host alias: " ++ pyRepr name⟩ := by
    unfold ssh
    rw [if_pos (by simp [hbad])]
  rw [hlaunch]
  unfold launch
  rw [hname]
  unfold openWorker prepareRemote
  simp only [hssh, Prog.throw_bind]

/-- The start of a checked task raises nothing final iff `_ssh` takes the alias of its host. -/
theorem startsCleanly_iff (hchecked : Checked settings task) (l : String × Option String) :
    StartsCleanly settings (startArgs task l) ↔ Reachable (nonEmpty? l.2) := by
  constructor
  · intro hclean name hname
    by_contra hbad
    rw [Bool.not_eq_true] at hbad
    let start : StartSettings :=
      { allowTaskBootCommand := settings.allowTaskBootCommand, digest := fun _ => "" }
    have hrefused : Tmux.start start (startArgs task l) ("", "") = _ :=
      start_refused rfl hchecked hname hbad _
    have hperform : (Tmux.start start (startArgs task l) ("", "")).perform
        (server ⟨fun _ _ => none, fun _ _ => none⟩) 0 [] ⟨[], [], 0⟩ =
          some (.error ⟨.valueError, "unsafe SSH host alias: " ++ pyRepr name⟩, ⟨[], [], 0⟩) := by
      rw [hrefused]
      rfl
    have hfinal : ExcClass.valueError.isKeyOrValueError = true := by decide
    exact hclean start rfl _ _ _ _ _ _ _ (fun _ h => absurd h List.not_mem_nil) hperform _ rfl
      hfinal
  · intro hreach start hstart times loose t fates h r h' hfates hperform e he
    subst he
    exact Prog.perform_throws (clean_start hstart hchecked hreach times)
      (fun fate hmem _ _ _ _ he => server_exec_error (hfates fate hmem) he) hperform

end Start

/-! ## The two layers -/

/-- The location of a task on a host. -/
theorem location_of_target {hid : String} (h : nonEmpty? task.targetHost = some hid) :
    location settings host task = (host.remoteRoot ++ "/ws_" ++ task.id, some host.sshAlias) := by
  unfold location
  rw [h]

theorem nonEmpty?_alias {s : String} (h : Resource.isSafeId s = true) :
    nonEmpty? (some s) = some s := by
  have hempty : Resource.isSafeId "" = false := by decide
  have hne : s ≠ "" := by
    rintro rfl
    rw [hempty] at h
    cases h
  exact if_neg hne

/-- Of the accepted aliases `_ssh` takes those that begin with a letter or digit. -/
theorem isAlias_iff {s : String} (h : Resource.isSafeId s = true) :
    Tmux.isAlias s = true ↔ s.toList.head?.any Char.isAlphanum = true := by
  unfold Resource.isSafeId at h
  simp only [Bool.and_eq_true] at h
  have hall := h.2
  unfold Tmux.isAlias
  cases hs : s.toList with
  | nil => simp
  | cons c cs =>
    rw [hs, List.all_cons, Bool.and_eq_true] at hall
    have hcs : cs.all (fun c => c.isAlphanum || ['.', '_', '-'].contains c) = true := by
      refine List.all_eq_true.mpr fun x hx => ?_
      have hsafe := List.all_eq_true.mp hall.2 x hx
      simpa [Resource.isSafeChar, or_assoc] using hsafe
    dsimp only
    rw [hcs, Bool.and_true, List.head?_cons, Option.any_some]

/-- A process in which nothing is leased and the host is known. -/
def freshWorld (host : Host) : World :=
  .boot { Db.init with
    host := Table.empty.insert host (by rintro ⟨h, hmem, -⟩; cases hmem) }

theorem hosts_freshWorld (h : ∀ hid, nonEmpty? task.targetHost = some hid → host.id = hid) :
    Hosts host task (freshWorld host) := by
  intro hid htarget
  exact Table.get?_eq_some_iff.mpr ⟨List.mem_append_right [] List.mem_cons_self, h hid htarget⟩

theorem perform_resolveHost {w : World} (hhost : Hosts host task w) :
    ∃ envs, (resolveHost settings task).perform (process settings) 0 envs w =
      some (.ok (location settings host task), w) := by
  unfold resolveHost location
  cases htarget : nonEmpty? task.targetHost with
  | none => exact ⟨[], rfl⟩
  | some hid =>
    have hexec : (process settings).exec 0 (.store (.getHost hid)) {} w = (.ok (some host), w) := by
      have hrow := hhost hid htarget
      show World.exec settings {} (.store (.getHost hid)) w = _
      simp [World.exec, Transaction.exec, Transaction.reading, Store.getHost, hrow]
    refine ⟨[({} : Env)] ++ [], ?_⟩
    have hcall : (store (.getHost hid)).perform (process settings) 0 [{}] w =
        some (.ok (some host), w) := (Prog.perform_call _ _ _).trans (congrArg some hexec)
    exact (Prog.perform_bind_of_ok [] hcall).trans rfl

/-- Where nothing is leased the acquisition succeeds. -/
theorem acquire_freshWorld {adapter : String} {wid : WorkerId} {req : JsonObj}
    (hreq : adapter = "gpu" → ((req.get? "uuid").bind Json.str?).any Resource.isSafeId = true) :
    ∃ lock w', (freshWorld host).acquire adapter wid req {} = (.ok (some lock), w') := by
  unfold World.acquire
  by_cases hgpu : adapter = "gpu"
  · rw [if_pos hgpu]
    obtain ⟨uuid, huuid, hsafe⟩ := safeUuid (hreq hgpu)
    have htruthy := truthy_of_isSafeId hsafe
    have hstr : (Json.str uuid).str? = some uuid := rfl
    have hheld : Dict.get? (freshWorld host).held uuid = none := rfl
    simp only [huuid, htruthy, Bool.not_true, Bool.false_eq_true, if_false, hstr, hsafe, hheld,
      Option.isSome_none, if_true]
    exact ⟨_, _, rfl⟩
  · rw [if_neg hgpu]
    exact ⟨_, _, rfl⟩

/-- A checked task can be resolved where nothing is leased. -/
theorem exists_dispatch (hchecked : Checked settings task)
    (h : ∀ hid, nonEmpty? task.targetHost = some hid → host.id = hid) (wid : WorkerId) :
    ∃ envs d w', (resolveDispatch settings task wid).perform (process settings) 0 envs
      (freshWorld host) = some (.ok (some d), w') := by
  obtain ⟨rt, hrt, hremote⟩ := hchecked.runtime
  obtain ⟨adapter, hresolved, hsafe⟩ := resolveAdapter_of_checked hchecked
  have hhosts : ∃ envs, (resolveHost settings task).perform (process settings) 0 envs
      (freshWorld host) = some (.ok (location settings host task), freshWorld host) :=
    perform_resolveHost (hosts_freshWorld h)
  obtain ⟨envs, hhost⟩ := hhosts
  have hsupported : ((nonEmpty? (location settings host task).2).isSome && !rt.supportsRemote) =
      false := supported_of_remote hremote
  unfold resolveDispatch
  rw [hrt, Prog.ofExcept_ok_bind, if_neg (by rw [gpu_has_uuid hchecked]; decide), hresolved,
    Prog.ofExcept_ok_bind]
  generalize location settings host task = l at hhost hsupported
  obtain ⟨wsPath, sshHost⟩ := l
  have hgo : ¬ ((nonEmpty? sshHost).isSome && !rt.supportsRemote) = true :=
    Bool.eq_false_iff.mp hsupported
  cases adapter with
  | none =>
    refine ⟨envs ++ [], ⟨task, wid, rt, wsPath, sshHost, none⟩, freshWorld host,
      (Prog.perform_bind_of_ok [] hhost).trans ?_⟩
    dsimp only
    rw [if_neg hgo]
    rfl
  | some kind =>
    have hacquires : ∃ lock w', (freshWorld host).acquire kind wid task.resourceReq {} =
        (.ok (some lock), w') := acquire_freshWorld (hsafe kind rfl)
    obtain ⟨lock, w', hacquire⟩ := hacquires
    have hcall : (call (.acquire kind wid task.resourceReq)).perform (process settings) 0
        [({} : Env)] (freshWorld host) = some (.ok (some lock), w') :=
      (Prog.perform_call _ _ _).trans (congrArg some hacquire)
    refine ⟨envs ++ ([({} : Env)] ++ []), ⟨task, wid, rt, wsPath, sshHost, some lock⟩, w',
      (Prog.perform_bind_of_ok _ hhost).trans ?_⟩
    dsimp only
    rw [if_neg hgo]
    exact (Prog.perform_bind_of_ok [] hcall).trans rfl

/-- The dispatches that a resolution of a checked task returns. -/
theorem of_performance (hchecked : Checked settings task) {w : World} (hhost : Hosts host task w)
    {wid : WorkerId} {t : ThreadId} {envs : List Env} {r : Except PyErr (Option Dispatch)}
    {w' : World}
    (h : (resolveDispatch settings task wid).perform (process settings) t envs w = some (r, w')) :
    Ends (fun found => ∀ d, found = some d → IsDispatchOf settings host task d) r :=
  Alone.of_perform (resolveDispatch_ends hchecked hhost wid)
    (Prog.permitted_of_forall _ _ _ fun _ _ _ => trivial) h

/-- The one runtime that works with remote hosts. -/
theorem claude_of_remote {name : String} {rt : RuntimeAdapter} (h : Runtime.get name = .ok rt)
    (hremote : rt.supportsRemote = true) : rt.name = "claude_tmux" := by
  have hall : ∀ rt ∈ Runtime.registry, rt.supportsRemote = true → rt.name = "claude_tmux" := by
    decide
  unfold Runtime.get at h
  cases hfind : Runtime.registry.find? fun rt => rt.name = name with
  | none =>
    rw [hfind] at h
    cases h
  | some rt' =>
    rw [hfind] at h
    obtain rfl : rt' = rt := Except.ok.inj h
    exact hall rt' (List.mem_of_find?_eq_some hfind) hremote

/-- A remote task is dispatched cleanly only if the alias of its host begins with a letter or a
digit. -/
theorem alias_of_dispatches (hchecked : Checked settings task)
    (halias : Resource.isSafeId host.sshAlias = true)
    (hid : ∀ hid, nonEmpty? task.targetHost = some hid → host.id = hid)
    (hall : Dispatches settings host task) (hsome : (nonEmpty? task.targetHost).isSome = true) :
    host.sshAlias.toList.head?.any Char.isAlphanum = true := by
  obtain ⟨target, hsome⟩ := Option.isSome_iff_exists.mp hsome
  obtain ⟨envs, d, w', hperform⟩ := exists_dispatch hchecked hid ⟨task.id, 0⟩
  have hfresh := hosts_freshWorld hid
  obtain ⟨htask, hrt, hlocation⟩ := of_performance hchecked hfresh hperform d rfl
  obtain ⟨rt, hrt', hremote⟩ := hchecked.runtime
  obtain rfl : rt = d.rt := Except.ok.inj (hrt'.symm.trans hrt)
  have hclaude := claude_of_remote hrt (hremote (by rw [hsome]; rfl))
  have hclean := (hall _ hfresh _ _ _ _ _ hperform).2 d rfl hclaude
  rw [htask, hlocation, startsCleanly_iff hchecked, location_of_target hsome] at hclean
  exact (isAlias_iff halias).mp (hclean _ (nonEmpty?_alias halias))

/-- All else the two layers take alike. -/
theorem dispatches_of_alias (hchecked : Checked settings task)
    (halias : Resource.isSafeId host.sshAlias = true)
    (hcondition : (nonEmpty? task.targetHost).isSome = true →
      host.sshAlias.toList.head?.any Char.isAlphanum = true) :
    Dispatches settings host task := by
  intro w hhosts wid t envs r w' hperform
  have hends := of_performance hchecked hhosts hperform
  refine ⟨?_, ?_⟩
  · rintro e rfl
    exact hends
  · rintro d rfl -
    obtain ⟨htask, -, hlocation⟩ := hends d rfl
    rw [htask, hlocation, startsCleanly_iff hchecked]
    intro name hname
    cases hsome : nonEmpty? task.targetHost with
    | none =>
      unfold location at hname
      rw [hsome] at hname
      cases hname
    | some target =>
      rw [location_of_target hsome, nonEmpty?_alias halias, Option.some.injEq] at hname
      rw [← hname, isAlias_iff halias]
      exact hcondition (by rw [hsome]; rfl)

/-- No check of the dispatch of an accepted task raises a `KeyError` or `ValueError` iff the task is
local or the alias of its host, which was accepted, begins with a letter or a digit: the API takes
`[A-Za-z0-9._-]` in every place, `_ssh` only from the second on. -/
theorem agreement_iff {pid : String} {item : TaskCreate} (hhost : AcceptsHost settings host)
    (htask : Accepts settings pid item task)
    (hid : ∀ hid, nonEmpty? item.targetHost = some hid → host.id = hid) :
    Dispatches settings host task ↔
      ((nonEmpty? item.targetHost).isSome = true →
        host.sshAlias.toList.head?.any Char.isAlphanum = true) := by
  have htarget := htask.fields.2.2.1
  rw [← htarget] at hid ⊢
  exact ⟨alias_of_dispatches htask.checked hhost.alias hid,
    dispatches_of_alias htask.checked hhost.alias⟩

/-- A host with an alias. -/
private def aliased (sshAlias : String) : Host := ⟨"h", sshAlias, "/srv/workspaces"⟩

/-- A request for a task on that host. -/
private def remoteItem : TaskCreate := { id := "t", name := "n", spec := "s", targetHost := some "h" }

/-- The row of `remoteItem`. -/
private def remoteTask : Task :=
  { id := "t", projectId := "p", name := "n", spec := "s", state := .queued, targetHost := some "h" }

/-- A host whose alias begins with a dash is accepted, and so is a task for it, but no dispatch of
the task ever succeeds. -/
theorem dashed_alias_is_refused :
    AcceptsHost {} (aliased "-gpu") ∧ Accepts {} "p" remoteItem remoteTask ∧
      ¬ Dispatches {} (aliased "-gpu") remoteTask := by
  have hhost : AcceptsHost {} (aliased "-gpu") := ⟨0, [{}, {}], .boot Db.init, _, rfl⟩
  have htask : Accepts {} "p" remoteItem remoteTask :=
    ⟨0, [{}, { count := 2 }, { clock := ⟨"", ""⟩ }], freshWorld (aliased "-gpu"), _, rfl⟩
  refine ⟨hhost, htask, fun hall => ?_⟩
  have hid : ∀ hid, nonEmpty? remoteTask.targetHost = some hid → (aliased "-gpu").id = hid := by
    rintro _ ⟨⟩
    rfl
  exact absurd (alias_of_dispatches htask.checked hhost.alias hid hall rfl) (by decide)

theorem agreement_iff_plain_alias :
    Dispatches {} (aliased "gpu") remoteTask ↔
      ((nonEmpty? remoteItem.targetHost).isSome = true →
        (aliased "gpu").sshAlias.toList.head?.any Char.isAlphanum = true) :=
  have hhost : AcceptsHost {} (aliased "gpu") := ⟨0, [{}, {}], .boot Db.init, _, rfl⟩
  have htask : Accepts {} "p" remoteItem remoteTask :=
    ⟨0, [{}, { count := 2 }, { clock := ⟨"", ""⟩ }], freshWorld (aliased "gpu"), _, rfl⟩
  agreement_iff hhost htask fun _ h => Option.some.inj h

end Agreement

end Flotilla
