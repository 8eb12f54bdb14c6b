import KerSorMonitor.Flotilla.Observer
import KerSorMonitor.Runtime.Tmux

/-!
# `ClaudeCodeTmuxRuntime.start` (`flotilla/runtime/tmux_claude.py`)

`start` writes the workspace of a task, opens a tmux window that runs its worker, and answers the
first prompts of the worker, on this machine or over ssh.

Results:
1. `start`: the function; `openWorker` is its launch, remote or local.
-/

namespace Flotilla.Tmux

open Threads
open Prog (call)

/-! ## Texts -/

/-- `shlex.quote`. -/
def quote (s : String) : String :=
  let safe (c : Char) := c.isAlphanum || ['_', '@', '%', '+', '=', ':', ',', '.', '/', '-'].contains c
  if s = "" then "''"
  else if s.toList.all safe then s
  else "'" ++ String.ofList (s.toList.flatMap fun c => if c = '\'' then "'\"'\"'".toList else [c]) ++
    "'"

/-- `_window_name`. The digest is `hashlib.sha256(...).hexdigest()`. -/
def windowName (digest : String → String) (tid : TaskId) : String :=
  let digest := takeChars 8 (digest tid)
  "flotilla_" ++ takeChars (40 - 10 - digest.length) tid ++ "_" ++ digest

/-- The settings that `start` reads. -/
structure StartSettings where
  tmuxSession : String := "flotilla"
  workerModel : String := "claude-opus-4-6[1m]"
  allowTaskBootCommand : Bool := false
  apiBaseUrl : String := ""
  workerPingToken : String := ""
  /-- `hashlib.sha256(...).hexdigest()`. -/
  digest : String → String

/-- The arguments of `start`. -/
structure StartArgs where
  taskId : TaskId
  workspace : String
  host : Option String := none
  spec : String := ""
  session : Option String := none
  bootCommand : Option String := none
  metadata : JsonObj := []
  workerModel : Option String := none

/-- `status`, as it is first written. -/
def initialStatus (args : StartArgs) (startedAt timestamp : String) : JsonObj :=
  let field (key : String) := (args.metadata.get? key).getD (.str "")
  [("state", .str "running"), ("engine", .str "claude_tmux"), ("protocol", field "protocol"),
   ("experiment_id", field "experiment_id"), ("gpu", field "gpu"),
   ("paper_include_flag", field "paper_include_flag"), ("paper_caveat", field "paper_caveat"),
   ("task_id", .str args.taskId), ("started_at", .str startedAt), ("best_candidate", .null),
   ("speedup", .null), ("rounds", .int 0), ("timestamp", .str timestamp)]

/-- `effort_flag`. -/
def effortFlag (metadata : JsonObj) : Except PyErr String :=
  match metadata.get? "effort" with
  | none => .ok ""
  | some effort =>
    if !effort.truthy then .ok ""
    else match effort with
      | .str s =>
        if ["low", "medium", "high", "xhigh", "max"].contains s then .ok (" --effort " ++ quote s)
        else .error ⟨.valueError, "unsupported effort value: " ++ effort.pyRepr⟩
      | .arr _ => .error ⟨.typeError, "unhashable type: 'list'"⟩
      | .obj _ => .error ⟨.typeError, "unhashable type: 'dict'"⟩
      | _ => .error ⟨.valueError, "unsupported effort value: " ++ effort.pyRepr⟩

/-- `boot_command`, after the one of the metadata was considered. -/
def chosenBootCommand (settings : StartSettings) (args : StartArgs) :
    Except PyErr (Option String) :=
  match args.bootCommand, args.metadata.get? "boot_command" with
  | none, some boot =>
    if !boot.truthy then .ok none
    else if !settings.allowTaskBootCommand then
      .error ⟨.valueError, "metadata.boot_command is disabled; set " ++
        "FLOTILLA_ALLOW_TASK_BOOT_COMMAND=1 only on a trusted control plane"⟩
    else .ok (some boot.pyStr)
  | boot, _ => .ok boot

/-- `cmd`. -/
def workerCommand (settings : StartSettings) (args : StartArgs) (effortFlag : String)
    (bootCommand : Option String) : String :=
  (nonEmpty? bootCommand).getD ("claude --model " ++
    quote ((nonEmpty? args.workerModel).getD settings.workerModel) ++ effortFlag ++
    " --permission-mode auto " ++ quote "Read runs/combined_prompt.md and begin.")

/-- `heartbeat_setup` and `heartbeat_cleanup`, of a local worker. -/
def heartbeat (settings : StartSettings) (host : Option String) : String × String :=
  if settings.apiBaseUrl ≠ "" ∧ host = none then
    let authHeader := if settings.workerPingToken ≠ "" then
      "-H " ++ quote ("Authorization: Bearer " ++ settings.workerPingToken) ++ " " else ""
    ("API_URL=" ++ quote settings.apiBaseUrl ++ "\n( while true; do sleep 60; " ++
      "[ -f status.json ] && curl -sf -X POST \"$API_URL/internal/worker-ping\" " ++
      "-H \"Content-Type: application/json\" " ++ authHeader ++
      "-d \"$(cat status.json)\" 2>/dev/null || true; done ) &\nHB=$!\n",
     "[ -n \"$\x7bHB:-\x7d\" ] && kill $HB 2>/dev/null\n")
  else ("", "")

/-- `start_sh`. -/
def startScript (workspace : String) (heartbeat : String × String) (cmd : String) : String :=
  "#!/bin/bash\nexport PATH=\"$HOME/.local/bin:$PATH\"\ncd -- " ++ quote workspace ++ "\n" ++
  heartbeat.1 ++ "set +e\n" ++ cmd ++ "\nWORKER_RC=$?\n" ++ heartbeat.2 ++
  "echo \"=== Worker exited rc=$WORKER_RC at $(date) ===\"\nexec bash\n"

/-- A character at which `splitlines` splits. -/
def isLineBreak (c : Char) : Bool :=
  (10 ≤ c.toNat && c.toNat ≤ 13) || (28 ≤ c.toNat && c.toNat ≤ 30) ||
    [0x85, 0x2028, 0x2029].contains c.toNat

/-- `panes[0]`, if there is one and it is not empty. -/
@[irreducible] def firstPane (stdout : String) : Option String :=
  nonEmpty? (some (String.ofList ((strip stdout).toList.takeWhile fun c => !isLineBreak c)))

/-! ## The launches -/

/-- The paths and the target of a launch. -/
structure Launch where
  workspace : String
  prompt : String
  status : JsonObj
  script : String
  session : String
  window : String

namespace Launch

def runsDir (l : Launch) : String := l.workspace ++ "/runs"
def promptPath (l : Launch) : String := l.runsDir ++ "/combined_prompt.md"
def statusPath (l : Launch) : String := l.workspace ++ "/status.json"
def startPath (l : Launch) : String := l.runsDir ++ "/start.sh"

/-- `launcher`. -/
def launcher (l : Launch) : String := "bash " ++ quote l.startPath

/-- `f"{sess}:{win}"`. -/
def target (l : Launch) : String := l.session ++ ":" ++ l.window

end Launch

/-- The pane of the window, or `RuntimeError`. -/
def paneOf (target : String) (stdout : String) : RuntimeProgram String :=
  match firstPane stdout with
  | some pane => return pane
  | none => .throw ⟨.runtimeError, "tmux worker " ++ target ++ " started without a pane"⟩

/-- The launch over ssh, before its window is opened. -/
def prepareRemote (host : String) (l : Launch) : RuntimeProgram Unit := do
  let _ ← ssh host (.mkdir (["runs", "candidates", "outputs", "docs"].map (l.workspace ++ "/" ++ ·)))
  let _ ← ssh host (.write l.promptPath (.text l.prompt))
  let _ ← ssh host (.write l.statusPath (.dumps l.status))
  let _ ← ssh host (.write l.startPath (.text l.script))
  let _ ← ssh host (.chmod [("600", l.promptPath), ("600", l.statusPath), ("700", l.startPath)])
  let _ ← ssh host (.ensureSession l.session)
  let _ ← ssh host (.dropWindow l.session l.window)
  return ()

/-- The launch over ssh, from the opening of its window on. -/
def openRemote (host : String) (l : Launch) : RuntimeProgram String := do
  let _ ← ssh host (.newWindow l.session l.window l.launcher)
  let panes ← ssh host (.listPanes l.session l.window)
  paneOf (pyRepr l.target) panes.stdout

/-- `subprocess.run(["tmux", *args], check=True)`. -/
def checkedRun (args : List String) (cmd : Command) : RuntimeProgram Completed := do
  let r ← call (.run cmd)
  if r.returncode = 0 then return r
  else .throw ⟨.exception, "Command '" ++ pyReprList ("tmux" :: args) ++
    "' returned non-zero exit status " ++ toString r.returncode ++ "."⟩

/-- The session of a local launch: `has-session`, else `new-session`. -/
def localSession (sess : String) : RuntimeProgram Unit := do
  let r ← call (.run (.hasSession sess))
  if r.returncode = 0 then return ()
  else
    let _ ← checkedRun ["new-session", "-d", "-s", sess] (.newSession sess)
    return ()

/-- The files of a local launch. -/
def localFiles (l : Launch) : RuntimeProgram Unit := do
  call (.file (.mkdir [l.workspace]))
  call (.file (.chmod [("700", l.workspace)]))
  call (.file (.mkdir [l.runsDir]))
  call (.file (.chmod [("700", l.runsDir)]))
  call (.file (.write l.promptPath (.text l.prompt)))
  call (.file (.write l.statusPath (.dumps l.status)))
  call (.file (.write l.startPath (.text l.script)))
  call (.file (.chmod [("600", l.promptPath)]))
  call (.file (.chmod [("600", l.statusPath)]))
  call (.file (.chmod [("700", l.startPath)]))

/-- The launch on this machine, before its window is opened. -/
def prepareLocal (l : Launch) : RuntimeProgram Unit := do
  localFiles l
  localSession l.session
  let _ ← call (.run (.killWindow l.session l.window))
  return ()

/-- The launch on this machine, from the opening of its window on. -/
def openLocal (l : Launch) : RuntimeProgram String := do
  let _ ← checkedRun ["new-window", "-a", "-d", "-t", l.session, "-n", l.window, l.launcher]
    (.newWindow l.session l.window l.launcher)
  let panes ← checkedRun ["list-panes", "-t", l.target, "-F", "#\x7bpane_id\x7d"]
    (.listPanes l.session l.window)
  paneOf l.target panes.stdout

/-! ## The first prompts -/

/-- A command on the new pane: checked over ssh, not checked here. -/
def onPane (host : Option String) (cmd : Command) : RuntimeProgram Completed :=
  match host with
  | some host => ssh host cmd
  | none => call (.run cmd)

/-- The keys that answer one prompt. -/
def sendKeys (host : Option String) (pane : String) : List String → RuntimeProgram Unit
  | [] => return ()
  | key :: keys => do
    let _ ← onPane host (.sendKeys pane key)
    sendKeys host pane keys

/-- The loop over `prompt_checks`. -/
def answerPrompts (host : Option String) (pane : String) :
    List (String × List String) → RuntimeProgram Unit
  | [] => return ()
  | (text, keys) :: checks => do
    let cap ← onPane host (.capturePane pane)
    if containsText (pyLower text).toList (pyLower cap.stdout).toList then
      sendKeys host pane keys
    answerPrompts host pane checks

/-- `prompt_checks`, of a worker without a boot command. -/
def promptChecks (bootCommand : Option String) : List (String × List String) :=
  if bootCommand = none then [("trust", ["Enter"]), ("api key", ["1", "Enter"])] else []

/-! ## `start` -/

/-- What is launched, with the two readings of the clock. -/
def launchOf (settings : StartSettings) (args : StartArgs) (times : String × String)
    (effortFlag : String) (bootCommand : Option String) : Launch where
  workspace := args.workspace
  prompt := "# Task " ++ args.taskId ++ "\n\n" ++ args.spec ++ "\n"
  status := initialStatus args times.1 times.2
  script := startScript args.workspace (heartbeat settings (nonEmpty? args.host))
    (workerCommand settings args effortFlag bootCommand)
  session := (nonEmpty? args.session).getD settings.tmuxSession
  window := windowName settings.digest args.taskId

/-- The launch on the host of the worker. -/
def openWorker (host : Option String) (l : Launch) : RuntimeProgram String :=
  match host with
  | some host => do
    prepareRemote host l
    openRemote host l
  | none => do
    prepareLocal l
    openLocal l

/-- The launch and the answers to the first prompts. -/
def launch (host : Option String) (l : Launch) (bootCommand : Option String) :
    RuntimeProgram NativeHandle := do
  let pane ← openWorker (nonEmpty? host) l
  answerPrompts (nonEmpty? host) pane (promptChecks bootCommand)
  return .tmux host l.session l.window pane none l.workspace

/-- `ClaudeCodeTmuxRuntime.start`, up to the handle of the `WorkerHandle`. -/
def start (settings : StartSettings) (args : StartArgs) (times : String × String) :
    RuntimeProgram NativeHandle := do
  let effortFlag ← Prog.ofExcept (effortFlag args.metadata)
  let bootCommand ← Prog.ofExcept (chosenBootCommand settings args)
  launch args.host (launchOf settings args times effortFlag bootCommand) bootCommand

end Flotilla.Tmux
