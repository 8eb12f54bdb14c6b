import KerSorMonitor.Flotilla.Observer
import KerSorMonitor.Runtime.TmuxStart

/-!
# Workspaces of local workers (`flotilla/runtime/shell.py`, `flotilla/runtime/tmux_claude.py`)

What the two adapters make of the directory of a local worker when they start it, and what they
report of the worker.

Results:
1. `Shell.start`, `Shell.observe`: `ShellRuntime`.
2. `Tmux.startLocally`, `Tmux.observeLocally`: `ClaudeCodeTmuxRuntime` without a host.
-/

namespace Flotilla

/-- The directory of a local worker, as far as an observation reads it. -/
structure Workspace where
  /-- `status.json`. -/
  status : StatusFile := .missing
  /-- `shell.log`. -/
  log : List UInt8 := []
  /-- The files `candidates/*.py`. -/
  candidates : Nat := 0

/-- `bytes.decode(errors="replace")`. -/
structure Replacing where
  decode : List UInt8 → String
  decode_nil : decode [] = ""

namespace Shell

/-- The command of a shell worker. -/
def workerCommand (host command : Option String) (metadata : JsonObj) : Except PyErr String :=
  if (nonEmpty? host).isSome then
    .error ⟨.valueError, "shell runtime is local-only; use a remote-capable runtime"⟩
  else
    let command := match nonEmpty? command with
      | some command => Json.str command
      | none => (metadata.get? "command").getD .null
    match command.str?.filter fun command => Tmux.strip command ≠ "" with
    | some command => .ok command
    | none => .error ⟨.valueError, "shell runtime requires an explicit metadata.command"⟩

/-- `ShellRuntime.start`: the log is truncated; the other files are left. -/
def start (host command : Option String) (metadata : JsonObj) (ws : Workspace) :
    Except PyErr Workspace :=
  (workerCommand host command metadata).map fun _ => { ws with log := [] }

/-- `ShellRuntime.observe`, with what `Popen.poll` returns. -/
def observe (replacing : Replacing) (ws : Workspace) (returncode : Option Int) : Observation where
  state := .str (match returncode with
    | none => "running"
    | some code => if code = 0 then "complete" else "abandoned")
  exited := returncode.isSome
  paneTail := lastChars 800 (replacing.decode (ws.log.drop (ws.log.length - 4096)))
  extra := [("returncode", (returncode.map Json.int).getD .null)]

end Shell

namespace Tmux

/-- `ClaudeCodeTmuxRuntime.start` without a host: `status.json` is written. -/
def startLocally (dumps : JsonObj → List UInt8) (status : JsonObj) (ws : Workspace) : Workspace :=
  { ws with status := .content (dumps status) }

/-- `re.search(r"Worker exited rc=(\d+)", capture)`. -/
def exitCode? : List Char → Option Nat
  | [] => none
  | c :: cs =>
    let found := "Worker exited rc=".toList
    let digits := ((c :: cs).drop found.length).takeWhile Char.isDigit
    if found.isPrefixOf (c :: cs) && !digits.isEmpty then some (PyJson.digitsValue digits)
    else exitCode? cs

/-- `ClaudeCodeTmuxRuntime.observe` without a host: the status file, and what the pane shows. -/
def observeLocally (limits : PyJson.Limits) (ws : Workspace) (capture : String) :
    Except PyErr Observation :=
  (loadStatus limits ws.status).map fun st => {
    state := (st.get? "state").getD (.str "running")
    exited := containsText "Worker exited".toList capture.toList
    paneTail := lastChars 800 capture
    speedup := (st.get? "speedup").getD .null
    rounds := (st.get? "rounds").getD (.int 0)
    bestCandidate := (st.get? "best_candidate").getD .null
    extra := [("exit_code", ((exitCode? capture.toList).map fun n => Json.int n).getD .null)] }

end Tmux

end Flotilla
