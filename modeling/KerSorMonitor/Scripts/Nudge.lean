import KerSorMonitor.Scripts.Metrics

/-!
# Nudges and their cooldown (`generic_control.py`, `local-monitor.py`, `generic_remote_monitor.py`)

A monitor loop observes a worker's pane, asks for a verdict, and may paste a nudge into the pane.
There are two loops: the local `generic-loop`, and `run_once` on the GPU host, which keeps a state
file. What the outside does in one iteration (the pane, the verdict, the clock, the paste
commands) is the input of that iteration. Times are microseconds of one clock.

Results:
1. `remote_spaced`: a remote loop whose pastes are all followed by exit code 0.
2. `local_spaced`: a local loop.
3. `nudges_spaced`: both.
-/

namespace Scripts

open Flotilla

variable (py : Python)

/-! ## Verdicts -/

/-- A validated verdict. -/
structure Verdict where
  activity : String
  phase : String
  progress : String
  blockedOn : String
  requiredNextStep : String
  needsHuman : Bool
  nudge : String
  confidence : String
  reason : String
  nextCheckSeconds : Int
  deriving DecidableEq, Repr

/-- `str(verdict.get(key) or dflt)`. -/
def textField (d : JsonObj) (key dflt : String) : String :=
  (pyOr (getD d key .null) (.str dflt)).pyStr

/-- `int(value)`. -/
def pyInt : Json → Except PyErr Int
  | .bool b => .ok (if b then 1 else 0)
  | .int n => .ok n
  | .float f => py.truncate f
  | .str s =>
    match py.intOfStr s with
    | some n => .ok n
    | none => .error ⟨.valueError, "invalid literal for int() with base 10: " ++ pyRepr s⟩
  | _ => .error ⟨.typeError, "int() argument must be a string, a bytes-like object or a real number"⟩

/-- The activities of the verdict schema. -/
def allowedActivities : List String :=
  ["running", "idle", "stalled", "waiting", "needs_human", "complete", "unknown"]

/-- `validate_generic_verdict`. -/
def validateGenericVerdict (verdict : Json) : Except PyErr Verdict :=
  match verdict with
  | .obj d => do
    let nextCheck ← pyInt py (pyOr (getD d "next_check_seconds" .null) (.int 0))
    let activity := textField d "activity" "unknown"
    let confidence := textField d "confidence" "low"
    pure
      { activity := if activity ∈ allowedActivities then activity else "unknown"
        phase := textField d "phase" ""
        progress := textField d "progress" ""
        blockedOn := textField d "blocked_on" ""
        requiredNextStep := textField d "required_next_step" ""
        needsHuman := (getD d "needs_human" (.bool false)).truthy
        nudge := textField d "nudge" ""
        confidence := if confidence ∈ ["low", "medium", "high"] then confidence else "low"
        reason := textField d "reason" ""
        nextCheckSeconds := nextCheck }
  | _ => .error ⟨.valueError, "verdict must be a JSON object"⟩

/-! ## Timestamps -/

/-- A `last_nudge_at`: nothing, a text that is no ISO timestamp, a value on which the reader
raises (not a text, or without a time zone), or an instant. -/
inductive Stamp
  | none
  | unreadable
  | raises (e : PyErr)
  | at (t : Int)
  deriving DecidableEq, Repr

/-- `a or b`. -/
def Stamp.or : Stamp → Stamp → Stamp
  | .none, b => b
  | a, _ => a

/-- One second. -/
def second : Int := 1000000

/-- `seconds_since_iso`; `int` cuts off towards zero. -/
def secondsSinceIso (timestamp : Stamp) (now : Int) : Except PyErr (Option Int) :=
  match timestamp with
  | .none => .ok none
  | .unreadable => .ok none
  | .raises e => .error e
  | .at t => .ok (some (max 0 ((now - t).tdiv second)))

/-! ## Workers and what is observed of them -/

/-- A monitor policy, with its defaults filled in. -/
structure MonitorPolicy where
  mode : String
  cooldownSeconds : Int
  requireIdle : Bool
  actuationEnabled : Bool

/-- A worker of the configuration. -/
structure WorkerConfig where
  id : String
  readOnly : Bool
  paneId : String
  monitorMode : Option String
  actuationEnabled : Option Bool
  lastNudgeAt : Stamp
  policy : MonitorPolicy

/-- `worker_policy`. -/
def workerPolicy (w : WorkerConfig) : MonitorPolicy :=
  { w.policy with
    mode := w.monitorMode.getD w.policy.mode
    actuationEnabled := w.actuationEnabled.getD w.policy.actuationEnabled }

/-- What the observer finds in the pane. -/
structure Pane where
  collectedAt : Int
  paneId : String
  paneLines : List Char

/-- What `classify_pane_activity` returns, apart from the text it looked at. -/
structure Activity where
  activity : String
  idle : Bool
  deriving DecidableEq, Repr

/-- `classify_pane_activity`. -/
def classifyPaneActivity (paneLines : List Char) : Activity :=
  let lines := Csv.splitLines paneLines []
  let tail := List.intercalate ['\n'] (lines.drop (lines.length - 20))
  let lowered := (py.lower (String.ofList tail)).toList
  let busy := ["esc to interrupt", "ctrl+c to interrupt", "galloping", "thinking"].any
    fun m => isIn m.toList lowered
  let needsHuman := ["askuserquestion", "needs human", "which thing", "what do you want"].any
    fun m => isIn m.toList lowered
  let idle := ["❯", "check current task"].any (fun m => isIn m.toList tail) && !busy
  let activity :=
    if needsHuman then "needs_human"
    else if idle then "idle"
    else if busy then "running"
    else "unknown"
  ⟨activity, idle⟩

/-- An observation, as far as the actuation reads it. -/
structure Observation where
  collectedAt : Int
  workerId : String
  readOnly : Bool
  configuredPaneId : String
  paneId : String
  policy : MonitorPolicy
  activity : Activity
  /-- `monitor.last_nudge_at`, where a loop attaches it. -/
  lastNudgeAt : Stamp

/-- `build_generic_observation`. -/
def buildGenericObservation (w : WorkerConfig) (pane : Pane) : Observation where
  collectedAt := pane.collectedAt
  workerId := w.id
  readOnly := w.readOnly
  configuredPaneId := w.paneId
  paneId := pane.paneId
  policy := workerPolicy w
  activity := classifyPaneActivity py pane.paneLines
  lastNudgeAt := .none

/-! ## Actuation -/

inductive Transport
  | ssh
  | local
  deriving DecidableEq, Repr

/-- The command that pastes a message into a pane. -/
structure SendCommand where
  transport : Transport
  paneId : String
  message : String
  deriving DecidableEq, Repr

/-- An action of `generic-actuation/v1`. -/
structure Action where
  workerId : String
  eligible : Bool
  willSend : Bool
  dryRun : Bool
  reason : String
  paneId : String
  message : String
  command : Option SendCommand
  deriving DecidableEq, Repr

/-- The checks of `build_generic_actuation` before the cooldown: why it is blocked. -/
def blockedReason (w : WorkerConfig) (obs : Observation) (v : Verdict) : Option String :=
  let configured := if obs.configuredPaneId ≠ "" then obs.configuredPaneId else w.paneId
  if obs.readOnly then some "worker is read-only"
  else if !obs.policy.actuationEnabled then some "actuation is disabled by policy"
  else if py.lower obs.policy.mode ≠ "active" then some ("monitor mode is " ++ obs.policy.mode)
  else if v.needsHuman then some "verdict needs human input"
  else if v.nudge = "" then some "verdict has no nudge"
  else if obs.paneId = "" then some "missing pane_id"
  else if configured ≠ "" ∧ obs.paneId ≠ configured then
    some ("pane identity changed: configured " ++ configured ++ ", observed " ++ obs.paneId)
  else if obs.policy.requireIdle && !obs.activity.idle then
    some ("worker is not idle (activity=" ++ obs.activity.activity ++ ")")
  else none

/-- The cooldown check. -/
def cooldownReason (w : WorkerConfig) (obs : Observation) (now : Int) :
    Except PyErr (Option String) := do
  match ← secondsSinceIso (obs.lastNudgeAt.or w.lastNudgeAt) now with
  | none => pure none
  | some elapsed =>
    if elapsed < obs.policy.cooldownSeconds then
      pure (some ("cooldown active: " ++ toString (obs.policy.cooldownSeconds - elapsed) ++
        "s remaining"))
    else pure none

/-- `build_generic_actuation`. -/
def buildGenericActuation (w : WorkerConfig) (obs : Observation) (v : Verdict) (send : Bool)
    (now : Int) (transport : Transport) : Except PyErr Action :=
  let command := if obs.paneId ≠ "" ∧ v.nudge ≠ "" then
    some ⟨transport, obs.paneId, v.nudge⟩ else none
  let blocked (reason : String) : Action :=
    ⟨obs.workerId, false, false, !send, reason, obs.paneId, v.nudge, command⟩
  match blockedReason py w obs v with
  | some reason => .ok (blocked reason)
  | none =>
    match cooldownReason w obs now with
    | .error e => .error e
    | .ok (some reason) => .ok (blocked reason)
    | .ok none =>
      if send then
        .ok ⟨obs.workerId, true, true, false, "active monitor nudge", obs.paneId, v.nudge, command⟩
      else
        .ok ⟨obs.workerId, true, false, true, "dry-run; pass --send to paste the nudge", obs.paneId,
          v.nudge, command⟩

/-! ## One iteration -/

/-- What the outside does in one iteration on a worker: the pane, if it can be observed, the
verdict runner's answer, when the cooldown is checked, when the paste-buffer step succeeds (if it
does), the exit code of the send (none for a timeout), and when the send is over. -/
structure Iteration where
  worker : WorkerConfig
  pane : Except (List String) Pane
  verdict : Except PyErr Json
  now : Int
  pastedAt : Option Int
  exit : Option Int
  finish : Int
  order : now ≤ finish ∧ ∀ p, pastedAt = some p → now ≤ p ∧ p ≤ finish

/-- A nudge that was pasted into the pane of a worker. -/
structure Nudge where
  worker : WorkerConfig
  pastedAt : Int

/-- `send_generic_actuation`: the nudge that it pastes, if it does, and its return code; a
timeout raises. -/
def sendGenericActuation (it : Iteration) (action : Action) : Option Nudge × Except PyErr Int :=
  if action.willSend then
    (it.pastedAt.map (⟨it.worker, ·⟩),
      match it.exit with
      | some rc => .ok rc
      | none => .error ⟨.exception, "timed out after 20 seconds"⟩)
  else (none, .ok 0)

/-! ## The local loop -/

/-- One round of `run_generic_loop` for one worker: the nudge that it pastes, and an exception if
it ends the loop. -/
def localIteration (send promptOnly : Bool) (it : Iteration) : Option Nudge × Except PyErr Unit :=
  match it.pane with
  | .error _ => (none, .ok ())
  | .ok pane =>
    if promptOnly then (none, .ok ())
    else
      let obs := buildGenericObservation py it.worker pane
      match it.verdict >>= validateGenericVerdict py with
      | .error e => (none, .error e)
      | .ok v =>
        match buildGenericActuation py it.worker obs v send it.now .ssh with
        | .error e => (none, .error e)
        | .ok action =>
          let (nudge, rc) := sendGenericActuation it action
          (nudge, rc.map fun _ => ())

/-- `run_generic_loop`: the nudges of its rounds, up to the exception that ends it. -/
def runGenericLoop (send promptOnly : Bool) : List Iteration → List Nudge
  | [] => []
  | it :: its =>
    match localIteration py send promptOnly it with
    | (nudge, .ok ()) => nudge.toList ++ runGenericLoop send promptOnly its
    | (nudge, .error _) => nudge.toList

/-! ## The remote loop -/

/-- The state file of the remote monitor. -/
structure MonitorState where
  iterations : Int
  lastNudgeAt : Stamp
  lastObservationAt : Option Int
  lastActivity : Option String
  lastPhase : Option String
  lastRequiredNextStep : Option String
  lastActionReason : Option String
  lastError : Option String

/-- `read_json(path, ...)`: a missing file, and one without a JSON object, give the default. -/
def readState (file : Option MonitorState) : MonitorState :=
  file.getD ⟨0, .none, none, none, none, none, none, none⟩

/-- `record_state`. -/
def recordState (file : Option MonitorState) (update : MonitorState → MonitorState) :
    Option MonitorState :=
  some (update (readState file))

/-- The updates after an action. -/
def actionUpdates (iteration : Int) (obs : Observation) (v : Verdict) (action : Action) (rc : Int)
    (finish : Int) (state : MonitorState) : MonitorState where
  iterations := iteration
  lastNudgeAt := if action.willSend ∧ rc = 0 then .at finish else state.lastNudgeAt
  lastObservationAt := some obs.collectedAt
  lastActivity := some v.activity
  lastPhase := some v.phase
  lastRequiredNextStep := some v.requiredNextStep
  lastActionReason := some action.reason
  lastError := if rc = 0 then none else some ("actuation exited " ++ toString rc)

/-- What the outside sees of a step of the remote monitor: its state file, the nudge that it
pastes, and how it ends. -/
structure RemoteResult where
  file : Option MonitorState
  nudge : Option Nudge
  result : Except PyErr Int

/-- The end of `run_once`, from a validated verdict on. -/
def runAction (send : Bool) (file : Option MonitorState) (it : Iteration) (obs : Observation)
    (iteration : Int) (v : Verdict) : RemoteResult :=
  match buildGenericActuation py it.worker obs v send it.now .local with
  | .error e => ⟨file, none, .error e⟩
  | .ok action =>
    match sendGenericActuation it action with
    | (nudge, .error e) => ⟨file, nudge, .error e⟩
    | (nudge, .ok rc) =>
      ⟨recordState file (actionUpdates iteration obs v action rc it.finish), nudge, .ok rc⟩

/-- `run_once`. -/
def runOnce (send promptOnly : Bool) (file : Option MonitorState) (it : Iteration) : RemoteResult :=
  let state := readState file
  let iteration := state.iterations + 1
  match it.pane with
  | .error errors =>
    ⟨recordState file fun s => { s with
        iterations := iteration
        lastError := some (if errors = [] then "observation failed"
          else "; ".intercalate errors) }, none, .ok 1⟩
  | .ok pane =>
    let obs := { buildGenericObservation py it.worker pane with lastNudgeAt := state.lastNudgeAt }
    if promptOnly then
      ⟨recordState file fun s => { s with
          iterations := iteration
          lastObservationAt := some obs.collectedAt }, none, .ok 0⟩
    else
      match it.verdict >>= validateGenericVerdict py with
      | .error e =>
        ⟨recordState file fun s => { s with
            iterations := iteration
            lastObservationAt := some obs.collectedAt
            lastError := some (excName e.cls ++ ": " ++ e.msg) }, none, .ok 1⟩
      | .ok v => runAction py send file it obs iteration v

/-- What happens on the GPU host: a process starts, which notes its settings in the state file,
or does one iteration. -/
inductive RemoteEvent
  | start
  | once (it : Iteration)

/-- The nudges of a sequence of events. An exception ends the process, not the sequence: the next
process finds the state file. -/
def runRemote (send promptOnly : Bool) : Option MonitorState → List RemoteEvent → List Nudge
  | _, [] => []
  | file, .start :: es => runRemote send promptOnly (recordState file id) es
  | file, .once it :: es =>
    let r := runOnce py send promptOnly file it
    r.nudge.toList ++ runRemote send promptOnly r.file es

/-! ## The cooldown -/

/-- Two nudges of one worker are at least its cooldown apart. -/
def Spaced (log : List Nudge) : Prop :=
  log.Pairwise fun a b => a.worker.id = b.worker.id →
    b.worker.policy.cooldownSeconds * second ≤ b.pastedAt - a.pastedAt

instance (log : List Nudge) : Decidable (Spaced log) :=
  inferInstanceAs (Decidable (List.Pairwise _ log))

/-- The observation and the verdict pass the checks before the cooldown. -/
def PassesChecks (it : Iteration) : Prop :=
  match it.pane, it.verdict >>= validateGenericVerdict py with
  | .ok pane, .ok v => blockedReason py it.worker (buildGenericObservation py it.worker pane) v = none
  | _, _ => False

/-- Iterations of one worker that pass the checks are at least its cooldown apart. -/
def IterationsApart (its : List Iteration) : Prop :=
  its.Pairwise fun a b => a.worker.id = b.worker.id → PassesChecks py a → PassesChecks py b →
    b.worker.policy.cooldownSeconds * second ≤ b.now - a.finish

/-- The iterations of a remote run. -/
def iterations (es : List RemoteEvent) : List Iteration :=
  es.filterMap fun
    | .start => none
    | .once it => some it

/-- An iteration begins after the one before is over. -/
def Chronological (es : List RemoteEvent) : Prop :=
  (iterations es).Pairwise fun a b => a.finish ≤ b.now

/-- Every send whose paste-buffer step succeeds exits with 0. -/
def PastesExitZero (es : List RemoteEvent) : Prop :=
  ∀ it ∈ iterations es, it.pastedAt.isSome → it.exit = some 0

namespace NudgeLemmas

variable {py}

/-! ## When a nudge is sent -/

theorem willSend_spec {w : WorkerConfig} {obs : Observation} {v : Verdict} {send : Bool} {now : Int}
    {transport : Transport} {action : Action}
    (h : buildGenericActuation py w obs v send now transport = .ok action)
    (hsend : action.willSend = true) :
    blockedReason py w obs v = none ∧ cooldownReason w obs now = .ok none := by
  unfold buildGenericActuation at h
  cases hblocked : blockedReason py w obs v with
  | some reason =>
    rw [hblocked] at h
    cases h
    cases hsend
  | none =>
    rw [hblocked] at h
    refine ⟨rfl, ?_⟩
    match hcool : cooldownReason w obs now with
    | .error e =>
      rw [hcool] at h
      cases h
    | .ok (some reason) =>
      rw [hcool] at h
      cases h
      cases hsend
    | .ok none => rfl

/-- The cooldown check lets pass what is late enough. -/
theorem cooldown_passed {w : WorkerConfig} {obs : Observation} {now t : Int}
    (h : cooldownReason w obs now = .ok none) (ht : obs.lastNudgeAt = .at t) (hle : t ≤ now) :
    obs.policy.cooldownSeconds * second ≤ now - t := by
  have helapsed : obs.policy.cooldownSeconds ≤ max 0 ((now - t).tdiv second) := by
    by_contra hlt
    rw [Int.not_le] at hlt
    simp only [cooldownReason, ht, Stamp.or, secondsSinceIso, bind, Except.bind, if_pos hlt] at h
    cases h
  have hdiv : (now - t).tdiv second = (now - t) / second := Int.tdiv_eq_ediv_of_nonneg (by omega)
  rw [hdiv] at helapsed
  unfold second at *
  omega

/-- A nudge is one of the iteration, and its action was to be sent. -/
theorem sent_spec {it : Iteration} {action : Action} {n : Nudge}
    (h : (sendGenericActuation it action).1 = some n) :
    action.willSend = true ∧ n.worker = it.worker ∧ it.pastedAt = some n.pastedAt := by
  unfold sendGenericActuation at h
  split at h
  · next hsend =>
    obtain ⟨p, hp, rfl⟩ := Option.map_eq_some_iff.mp h
    exact ⟨hsend, rfl, hp⟩
  · cases h

/-! ## The local loop -/

theorem localIteration_spec {send promptOnly : Bool} {it : Iteration} {n : Nudge}
    (h : (localIteration py send promptOnly it).1 = some n) :
    PassesChecks py it ∧ n.worker = it.worker ∧ it.pastedAt = some n.pastedAt := by
  unfold localIteration at h
  unfold PassesChecks
  split at h
  · cases h
  · next pane hpane =>
    rw [hpane]
    split at h
    · cases h
    · simp only at h
      split at h
      · cases h
      · next v hv =>
        rw [hv]
        split at h
        · cases h
        · next action haction =>
          obtain ⟨hsend, hworker, hpasted⟩ := sent_spec h
          exact ⟨(willSend_spec haction hsend).1, hworker, hpasted⟩

/-- Each nudge of the local loop is one of an iteration that passes the checks. -/
theorem mem_runGenericLoop {send promptOnly : Bool} {its : List Iteration} {n : Nudge}
    (h : n ∈ runGenericLoop py send promptOnly its) :
    ∃ it ∈ its, PassesChecks py it ∧ n.worker = it.worker ∧ it.pastedAt = some n.pastedAt := by
  induction its with
  | nil => cases h
  | cons it its ih =>
    rw [runGenericLoop] at h
    split at h
    · next nudge hstep =>
      rcases List.mem_append.mp h with hmem | hmem
      · have hn : (localIteration py send promptOnly it).1 = some n := by
          rw [hstep]
          exact Option.mem_toList.mp hmem
        exact ⟨it, List.mem_cons_self, localIteration_spec hn⟩
      · obtain ⟨it', hit', hspec⟩ := ih hmem
        exact ⟨it', List.mem_cons_of_mem _ hit', hspec⟩
    · next nudge e hstep =>
      have hn : (localIteration py send promptOnly it).1 = some n := by
        rw [hstep]
        exact Option.mem_toList.mp h
      exact ⟨it, List.mem_cons_self, localIteration_spec hn⟩

theorem pairwise_toList {α : Type} {r : α → α → Prop} (o : Option α) : o.toList.Pairwise r := by
  cases o with
  | none => exact List.Pairwise.nil
  | some x => exact List.pairwise_singleton r x

/-! ## The remote loop -/

/-- What a step of the remote monitor does to the timestamp: without a nudge it stays, or is set to
the end of the send; a nudge is late enough for the timestamp that was there, and the timestamp is
set if the send exits with 0. -/
def StepSpec (file : Option MonitorState) (it : Iteration) (r : RemoteResult) : Prop :=
  (r.nudge = none ∧ ((readState r.file).lastNudgeAt = (readState file).lastNudgeAt ∨
      (readState r.file).lastNudgeAt = .at it.finish)) ∨
    ∃ n, r.nudge = some n ∧ n.worker = it.worker ∧ it.pastedAt = some n.pastedAt ∧
      (∀ t, (readState file).lastNudgeAt = .at t → t ≤ it.now →
        it.worker.policy.cooldownSeconds * second ≤ it.now - t) ∧
      (it.exit = some 0 → (readState r.file).lastNudgeAt = .at it.finish)

theorem runAction_spec {send : Bool} {file : Option MonitorState} {it : Iteration}
    {obs : Observation} {iteration : Int} {v : Verdict}
    (hstamp : obs.lastNudgeAt = (readState file).lastNudgeAt)
    (hcool : obs.policy.cooldownSeconds = it.worker.policy.cooldownSeconds) :
    StepSpec file it (runAction py send file it obs iteration v) := by
  unfold runAction
  cases hb : buildGenericActuation py it.worker obs v send it.now .local with
  | error e => exact Or.inl ⟨rfl, Or.inl rfl⟩
  | ok action =>
    dsimp only
    cases hs : sendGenericActuation it action with
    | mk nudge result =>
      have hlate : ∀ n, nudge = some n → n.worker = it.worker ∧ it.pastedAt = some n.pastedAt ∧
          action.willSend = true ∧ ∀ t, (readState file).lastNudgeAt = .at t → t ≤ it.now →
            it.worker.policy.cooldownSeconds * second ≤ it.now - t := by
        rintro n rfl
        obtain ⟨hsend, hworker, hpasted⟩ := sent_spec (congrArg Prod.fst hs)
        refine ⟨hworker, hpasted, hsend, fun t ht hle => ?_⟩
        have hpass := cooldown_passed (willSend_spec hb hsend).2 (hstamp.trans ht) hle
        rwa [hcool] at hpass
      cases result with
      | error e =>
        cases nudge with
        | none => exact Or.inl ⟨rfl, Or.inl rfl⟩
        | some n =>
          obtain ⟨hworker, hpasted, hsend, hpass⟩ := hlate n rfl
          refine Or.inr ⟨n, rfl, hworker, hpasted, hpass, fun hexit => ?_⟩
          -- an exit code is no timeout
          rw [sendGenericActuation, if_pos hsend, hexit] at hs
          cases (Prod.mk.inj hs).2
      | ok rc =>
        cases nudge with
        | none =>
          refine Or.inl ⟨rfl, ?_⟩
          simp only [recordState, readState, Option.getD_some, actionUpdates]
          split
          · exact Or.inr rfl
          · exact Or.inl rfl
        | some n =>
          obtain ⟨hworker, hpasted, hsend, hpass⟩ := hlate n rfl
          refine Or.inr ⟨n, rfl, hworker, hpasted, hpass, fun hexit => ?_⟩
          rw [sendGenericActuation, if_pos hsend, hexit] at hs
          cases (Prod.mk.inj hs).2
          simp only [recordState, readState, Option.getD_some, actionUpdates, hsend, and_self,
            if_true]

theorem runOnce_spec {send promptOnly : Bool} {file : Option MonitorState} {it : Iteration} :
    StepSpec file it (runOnce py send promptOnly file it) := by
  unfold runOnce
  cases it.pane with
  | error errors => exact Or.inl ⟨rfl, Or.inl rfl⟩
  | ok pane =>
    simp only
    split
    · exact Or.inl ⟨rfl, Or.inl rfl⟩
    · split
      · exact Or.inl ⟨rfl, Or.inl rfl⟩
      · exact runAction_spec rfl rfl

/-- The invariant of a remote run: its nudges were pasted by now, and not after the timestamp in
the state file. -/
def Remembered (file : Option MonitorState) (log : List Nudge) (now : Int) : Prop :=
  ∀ n ∈ log, n.pastedAt ≤ now ∧ ∃ t, (readState file).lastNudgeAt = .at t ∧ n.pastedAt ≤ t ∧ t ≤ now

variable (py) in
theorem step_remembered (send promptOnly : Bool) {file : Option MonitorState} {log : List Nudge}
    {now : Int} {it : Iteration} (h : Remembered file log now) (hlog : Spaced log)
    (hnow : now ≤ it.now) (hexit : it.pastedAt.isSome → it.exit = some 0) :
    Remembered (runOnce py send promptOnly file it).file
        (log ++ (runOnce py send promptOnly file it).nudge.toList) it.finish ∧
      Spaced (log ++ (runOnce py send promptOnly file it).nudge.toList) := by
  have hfinish := it.order.1
  have hspec : StepSpec file it (runOnce py send promptOnly file it) := runOnce_spec
  rcases hspec with ⟨hnone, hstamp⟩ | ⟨n, hn, hworker, hpasted, hpass, hset⟩
  · rw [hnone]
    simp only [Option.toList_none, List.append_nil]
    refine ⟨fun m hm => ?_, hlog⟩
    obtain ⟨hby, t, ht, hle, htn⟩ := h m hm
    refine ⟨by omega, ?_⟩
    rcases hstamp with hsame | hset
    · exact ⟨t, hsame.trans ht, hle, by omega⟩
    · exact ⟨it.finish, hset, by omega, Int.le_refl _⟩
  · rw [hn]
    simp only [Option.toList_some]
    have hstamp := hset (hexit (by rw [hpasted]; rfl))
    obtain ⟨hafter, hbefore⟩ := it.order.2 _ hpasted
    constructor
    · intro m hm
      rcases List.mem_append.mp hm with hm | hm
      · have hby := (h m hm).1
        exact ⟨by omega, it.finish, hstamp, by omega, Int.le_refl _⟩
      · rw [List.mem_singleton] at hm
        subst hm
        exact ⟨hbefore, it.finish, hstamp, hbefore, Int.le_refl _⟩
    · refine List.pairwise_append.mpr ⟨hlog, List.pairwise_singleton _ n, ?_⟩
      intro m hm n' hn' hid
      rw [List.mem_singleton] at hn'
      subst hn'
      obtain ⟨hby, t, ht, hle, htn⟩ := h m hm
      have hlate := hpass t ht (by omega)
      rw [hworker]
      omega

variable (py) in
theorem run_remembered (send promptOnly : Bool) {es : List RemoteEvent} :
    ∀ (file : Option MonitorState) (log : List Nudge) (now : Int), Remembered file log now →
      Spaced log → (∀ it ∈ iterations es, now ≤ it.now) → Chronological es → PastesExitZero es →
        Spaced (log ++ runRemote py send promptOnly file es) := by
  induction es with
  | nil =>
    intro file log now _ hlog _ _ _
    rw [runRemote, List.append_nil]
    exact hlog
  | cons e es ih =>
    intro file log now h hlog hnow hchron hexit
    cases e with
    | start =>
      rw [runRemote]
      exact ih (recordState file id) log now h hlog hnow hchron hexit
    | once it =>
      have hstep := step_remembered py send promptOnly h hlog (hnow it List.mem_cons_self)
        (hexit it List.mem_cons_self)
      obtain ⟨hnext, hrest⟩ := List.pairwise_cons.mp hchron
      rw [runRemote, ← List.append_assoc]
      exact ih _ _ it.finish hstep.1 hstep.2 hnext hrest fun it' hit' =>
        hexit it' (List.mem_cons_of_mem _ hit')

end NudgeLemmas

open NudgeLemmas

/-- The remote loop keeps the cooldown, over any number of processes, if every send that gets as
far as the pane exits with 0. -/
theorem remote_spaced {send promptOnly : Bool} {file : Option MonitorState}
    {es : List RemoteEvent} (hchron : Chronological es) (hexit : PastesExitZero es) :
    Spaced (runRemote py send promptOnly file es) := by
  cases hits : iterations es with
  | nil =>
    exact run_remembered py send promptOnly file [] 0 (fun n hn => absurd hn List.not_mem_nil)
      List.Pairwise.nil (by rw [hits]; exact fun it hit => absurd hit List.not_mem_nil) hchron hexit
  | cons first rest =>
    have hfirst : ∀ it ∈ iterations es, first.now ≤ it.now := by
      rw [hits]
      intro it hit
      rcases List.mem_cons.mp hit with rfl | hit
      · exact Int.le_refl _
      · unfold Chronological at hchron
        rw [hits] at hchron
        have hafter := List.rel_of_pairwise_cons hchron hit
        have hfinish := first.order.1
        omega
    exact run_remembered py send promptOnly file [] first.now
      (fun n hn => absurd hn List.not_mem_nil) List.Pairwise.nil hfirst hchron hexit

/-- The local loop keeps the cooldown if its iterations do. -/
theorem local_spaced {send promptOnly : Bool} {its : List Iteration}
    (h : IterationsApart py its) : Spaced (runGenericLoop py send promptOnly its) := by
  induction its with
  | nil => exact List.Pairwise.nil
  | cons it its ih =>
    obtain ⟨hhead, htail⟩ := List.pairwise_cons.mp h
    rw [runGenericLoop]
    split
    · next nudge hstep =>
      refine List.pairwise_append.mpr ⟨pairwise_toList nudge, ih htail, ?_⟩
      intro a ha b hb hid
      have hstep' : (localIteration py send promptOnly it).1 = some a := by
        rw [hstep]
        exact Option.mem_toList.mp ha
      obtain ⟨hpass, hworker, hpasted⟩ := localIteration_spec hstep'
      obtain ⟨it', hit', hpass', hworker', hpasted'⟩ := mem_runGenericLoop hb
      have hapart := hhead it' hit' (by rw [← hworker, ← hworker', hid]) hpass hpass'
      have hbefore := (it.order.2 _ hpasted).2
      have hafter := (it'.order.2 _ hpasted').1
      rw [hworker']
      omega
    · next nudge e hstep => exact pairwise_toList nudge

/-- An idle worker with a cooldown of 900 seconds. -/
def idleWorker : WorkerConfig :=
  ⟨"w1", false, "%1", none, some true, .none, ⟨"active", 900, true, true⟩⟩

/-- An iteration on it at second `n`, with a nudge that gets into the pane. -/
def nudgeIteration (n : Int) (exit : Option Int) : Iteration where
  worker := idleWorker
  pane := .ok ⟨n * second, "%1", ['❯']⟩
  verdict := .ok (.obj [("activity", .str "idle"), ("nudge", .str "continue")])
  now := n * second
  pastedAt := some (n * second + 1)
  exit := exit
  finish := n * second + 2
  order := by
    refine ⟨by omega, fun p hp => ?_⟩
    cases hp
    omega

end Scripts
