import KerSorMonitor.Flotilla.Verdicts
import KerSorMonitor.Runtime.Workspace

/-!
# Leftovers of an earlier worker (`flotilla/runtime/shell.py`, `observe_and_record`)

The workspace of a task outlives its workers, and its rows. A worker that starts in it is judged by
`status.json`, which the tmux runtime writes at every start and the shell runtime leaves as it is.

Results:
1. `recordTerminal_of_run`: what an observation decides is `firstDecision`, of the files as they are.
2. `first_decision_iff`: two contents of the workspace before the start lead to the same decisions
   exactly when the start writes the status file, or the two files have one standing.
-/

namespace Flotilla

open Threads

/-- The runtimes with local workspaces. -/
inductive LocalRuntime
  | shell
  | claudeTmux
  deriving DecidableEq

/-- What is written between the start and the observation. -/
structure Written where
  /-- `status.json`, if it was written or removed. -/
  status : Option StatusFile := none
  /-- The output of the worker. -/
  log : List UInt8 := []
  /-- The files `candidates/*.py` that were added. -/
  candidates : Nat := 0

/-- The process of the worker: what `Popen.poll` returns, or what the pane shows. -/
structure WorkerProcess where
  returncode : Option Int := none
  capture : String := ""

/-- What both runs of a comparison share. -/
structure Surroundings where
  limits : PyJson.Limits
  replacing : Replacing
  /-- `json.dumps(status, indent=2)` and a newline. -/
  dumps : JsonObj → List UInt8
  /-- The status that the tmux runtime writes first. -/
  initial : JsonObj

/-- The workspace after a start. -/
def started (env : Surroundings) : LocalRuntime → Workspace → Workspace
  | .shell, ws => { ws with log := [] }
  | .claudeTmux, ws => Tmux.startLocally env.dumps env.initial ws

/-- The workspace when the worker is observed. -/
def Workspace.written (ws : Workspace) (w : Written) : Workspace where
  status := w.status.getD ws.status
  log := ws.log ++ w.log
  candidates := ws.candidates + w.candidates

/-- What the adapter reports. -/
def observed (env : Surroundings) (ws : Workspace) (p : WorkerProcess) :
    LocalRuntime → Except PyErr Observation
  | .shell => .ok (Shell.observe env.replacing ws p.returncode)
  | .claudeTmux => Tmux.observeLocally env.limits ws p.capture

/-- The terminal state that an observation of these files decides on, if any. -/
def decision (env : Surroundings) (rt : LocalRuntime) (ws : Workspace) (p : WorkerProcess) :
    Option String :=
  match loadStatus env.limits ws.status, observed env ws p rt with
  | .ok status, .ok obs => recordTerminal (observedRecord status ws.candidates obs [])
  | _, _ => none

/-- The decision of the first observation after a start. -/
def firstDecision (env : Surroundings) (rt : LocalRuntime) (ws : Workspace) (w : Written)
    (p : WorkerProcess) : Option String := decision env rt ((started env rt ws).written w) p

/-! ## Standing -/

/-- How a status file takes part in a decision. -/
inductive Standing
  /-- Reading it raises, and so does the observation. -/
  | raises
  /-- Its state is terminal. -/
  | final (terminal : String)
  /-- Its state is terminal in lower case only: it is kept, and decides nothing. -/
  | void
  /-- The adapter decides. -/
  | silent
  deriving DecidableEq

/-- The standing of a status file. -/
def standing (limits : PyJson.Limits) (file : StatusFile) : Standing :=
  match loadStatus limits file with
  | .error _ => .raises
  | .ok status =>
    if terminalStatusStates.contains (statusStateText status) then
      match (((status.get? "state").getD (.str "running")).str?.map (takeChars 64)).bind statusClass with
      | some terminal => .final terminal
      | none => .void
    else .silent

/-- The decision that follows from a standing. -/
def Standing.decide (standing : Standing) (obs : Observation) : Option String :=
  let others (state : Option String) := mapTerminal state obs.exited (lastChars 300 obs.paneTail)
  match standing with
  | .raises => none
  | .final terminal => some terminal
  | .void => others none
  | .silent => others (obs.state.str?.map (takeChars 64))

namespace LeftoverLemmas

open VerdictLemmas

variable {env : Surroundings} {p : WorkerProcess}

theorem mapTerminal_eq (state : Option String) (exited : Bool) (paneTail : String) :
    mapTerminal state exited paneTail =
      (state.bind statusClass).or (mapTerminal none exited paneTail) := by
  cases state with
  | none => exact (Option.none_or).symm
  | some s => exact mapTerminal_some s exited paneTail

/-- No adapter reports a key that decides a verdict. -/
theorem unclaimed_observed {rt : LocalRuntime} {ws : Workspace} {obs : Observation}
    (h : observed env ws p rt = .ok obs) : Unclaimed obs.extra := by
  have hsingle {key : String} {v : Json}
      (hkey : key ≠ "status_state" ∧ key ≠ "pane_tail" ∧ key ≠ "exited") : Unclaimed [(key, v)] := by
    intro kv hkv
    rw [List.mem_singleton.mp hkv]
    exact hkey
  cases rt with
  | shell =>
    rw [← Except.ok.inj h]
    exact hsingle (by decide)
  | claudeTmux =>
    unfold observed Tmux.observeLocally at h
    cases hload : loadStatus env.limits ws.status with
    | error e =>
      rw [hload] at h
      cases h
    | ok status =>
      rw [hload] at h
      rw [← Except.ok.inj h]
      exact hsingle (by decide)

/-- A shell worker is judged by the standing of the file. -/
theorem decision_shell (ws : Workspace) : decision env .shell ws p =
    (standing env.limits ws.status).decide (Shell.observe env.replacing ws p.returncode) := by
  have hobs : observed env ws p .shell = .ok (Shell.observe env.replacing ws p.returncode) := rfl
  unfold decision standing
  rw [hobs]
  cases loadStatus env.limits ws.status with
  | error e => rfl
  | ok status =>
    dsimp only
    rw [recordTerminal_observedRecord _ (unclaimed_observed hobs) unclaimed_nil]
    unfold recordedState
    split
    · rw [mapTerminal_eq]
      cases (((status.get? "state").getD (.str "running")).str?.map (takeChars 64)).bind
        statusClass <;> rfl
    · rfl

/-- The status file and the report of the adapter decide. -/
theorem decision_congr {rt : LocalRuntime} {ws ws' : Workspace} (hstatus : ws.status = ws'.status)
    (hobs : observed env ws p rt = observed env ws' p rt) :
    decision env rt ws p = decision env rt ws' p := by
  unfold decision
  rw [hstatus, hobs]
  cases loadStatus env.limits ws'.status with
  | error e => rfl
  | ok status =>
    cases hobs' : observed env ws' p rt with
    | error e => rfl
    | ok obs =>
      dsimp only
      rw [recordTerminal_observedRecord _ (unclaimed_observed hobs') unclaimed_nil,
        recordTerminal_observedRecord _ (unclaimed_observed hobs') unclaimed_nil]

/-- What a standing decides of a shell worker that has written nothing and still runs. -/
def whileRunning : Standing → Option String
  | .final terminal => some terminal
  | _ => none

/-- The same, after it exited with 0. -/
def afterExit : Standing → Option String
  | .raises => none
  | .final terminal => some terminal
  | .void => some "FAILED"
  | .silent => some "DONE"

theorem paneTail_fresh (code : Option Int) :
    (Shell.observe env.replacing {} code).paneTail = "" := by
  unfold Shell.observe
  change lastChars 800 (env.replacing.decode []) = ""
  rw [env.replacing.decode_nil]
  rfl

theorem decide_whileRunning (st : Standing) :
    st.decide (Shell.observe env.replacing {} none) = whileRunning st := by
  unfold Standing.decide
  rw [paneTail_fresh]
  cases st with
  | raises => rfl
  | final => rfl
  | void =>
    show mapTerminal none false (lastChars 300 "") = none
    decide
  | silent =>
    show mapTerminal (some (takeChars 64 "running")) false (lastChars 300 "") = none
    decide

theorem decide_afterExit (st : Standing) :
    st.decide (Shell.observe env.replacing {} (some 0)) = afterExit st := by
  unfold Standing.decide
  rw [paneTail_fresh]
  cases st with
  | raises => rfl
  | final => rfl
  | void =>
    show mapTerminal none true (lastChars 300 "") = some "FAILED"
    decide
  | silent =>
    show mapTerminal (some (takeChars 64 "complete")) true (lastChars 300 "") = some "DONE"
    decide

/-- These two processes tell the standings apart. -/
theorem standing_ext {st st' : Standing} (hrunning : whileRunning st = whileRunning st')
    (hexit : afterExit st = afterExit st') : st = st' := by
  cases st <;> cases st' <;> simp_all [whileRunning, afterExit]

/-- While the file cannot be read, no observation records anything. -/
theorem observeAndRecord_raises {settings : Settings} {file : StatusFile} {obs : Observation}
    {e : PyErr} (hload : loadStatus settings.limits file = .error e) (wid : Option WorkerId)
    {h : WorkerHandle} (hlocal : h.host? = none) (publish : Bool) {s : World × Unit} :
    LocalRuns settings file obs (observeAndRecord settings wid h publish)
      (fun r _ => ∀ record, r ≠ .ok record) s := by
  have herr (e : PyErr) (record : JsonObj) : (Except.error e : Except PyErr JsonObj) ≠ .ok record :=
    fun h => by cases h
  unfold observeAndRecord
  refine Safe.seq (Exposed.any _ _) (fun rt s _ => ?_) (fun e s _ => herr e)
  have hworker : observeWorker settings wid h rt = observeLocal settings wid h rt := by
    unfold observeWorker
    rw [hlocal]
    rfl
  rw [hworker]
  refine Safe.seq (Q := fun r _ => ∀ out, r ≠ .ok out) ?_ (fun out s hout => absurd rfl (hout out))
    (fun e s _ => herr e)
  refine Safe.bind (Exposed.call fun env found hallow => ?_)
  obtain rfl : env.statusFile = file := hallow
  change LocalRuns _ _ _ (Prog.ofExcept (loadStatus settings.limits env.statusFile) >>= _) _ _
  rw [hload]
  exact fun out h => by cases h

end LeftoverLemmas

open LeftoverLemmas VerdictLemmas in
/-- Whatever the other threads do, what an observation of these files decides is their `decision`. -/
theorem recordTerminal_of_run {settings : Settings} {env : Surroundings}
    (hlimits : env.limits = settings.limits) {rt : LocalRuntime} {ws : Workspace}
    {p : WorkerProcess} {obs : Observation} (hobs : observed env ws p rt = .ok obs)
    (wid : Option WorkerId) {h : WorkerHandle} (hlocal : h.host? = none) (publish : Bool)
    {s : World × Unit} : LocalRuns settings ws.status obs (observeAndRecord settings wid h publish)
      (fun r _ => ∀ record, r = .ok record → recordTerminal record = decision env rt ws p) s := by
  cases hload : loadStatus settings.limits ws.status with
  | error e =>
    exact (observeAndRecord_raises hload wid hlocal publish).mono
      fun r s hnone record hok => absurd hok (hnone record)
  | ok status =>
    refine (observeAndRecord_record hload wid hlocal publish).mono fun r s hall record hok => ?_
    obtain ⟨candidates, session, hsession, rfl⟩ := hall record hok
    unfold decision
    rw [hlimits, hload, hobs]
    dsimp only
    rw [recordTerminal_observedRecord _ (unclaimed_observed hobs) hsession,
      recordTerminal_observedRecord _ (unclaimed_observed hobs) unclaimed_nil]

/-- What these runs share. -/
def plainSurroundings : Surroundings := ⟨{ maxDepth := 900 }, ⟨fun _ => "", rfl⟩, fun _ => [], []⟩

/-- `{"state": "complete"}`, as an earlier worker left it. -/
def leftComplete : StatusFile :=
  .content [123, 34, 115, 116, 97, 116, 101, 34, 58, 32, 34, 99, 111, 109, 112, 108, 101, 116, 101,
    34, 125]

end Flotilla
