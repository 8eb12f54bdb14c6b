import KerSorMonitor.Flotilla.World

/-!
# The tmux server of a host, and the commands sent to it (`flotilla/runtime/tmux_claude.py`, `_ssh`)

A command is run on the host of the worker, over ssh or by `subprocess.run`. A connection may drop
before or after the command has run; both are reported as return code 255, as is a client timeout,
and `_ssh` tries again. The names that tmux resolves loosely (as a prefix or a pattern) are a
parameter: they are used when no session or window bears the name itself.

Results:
1. `Host.window?`: a name that two windows bear resolves to none.
2. `ssh`: `_ssh`, at most three attempts.
-/

namespace Flotilla.Tmux

open Threads
open Prog (call)

/-! ## The server -/

/-- A window of a tmux server: its session, its name, and the number of its first pane. -/
structure Window where
  session : String
  name : String
  pane : Nat
  deriving DecidableEq, Repr

/-- The tmux server of a host. Pane numbers are never used twice. The window that a new session
starts with is left out: it bears the name of a shell. -/
structure Host where
  sessions : List String := []
  windows : List Window := []
  panes : Nat := 0
  deriving DecidableEq, Repr

/-- How tmux resolves a name that no session (window) bears: as the start of one, or a pattern. -/
structure Loose where
  session : List String → String → Option String
  window : List Window → String → Option Window

/-- `#{pane_id}`. -/
def paneId (pane : Nat) : String := "%" ++ toString pane

namespace Host

variable (loose : Loose)

/-- The session of a target. -/
def session? (h : Host) (sess : String) : Option String :=
  if h.sessions.contains sess then some sess else loose.session h.sessions sess

/-- The windows of a session that bear a name. -/
def bearing (h : Host) (session name : String) : List Window :=
  h.windows.filter fun w => w.session = session && w.name = name

/-- The window of a target `sess:win`. Several matches are an error. -/
def window? (h : Host) (sess win : String) : Option Window :=
  (h.session? loose sess).bind fun session =>
    match h.bearing session win with
    | [w] => some w
    | [] => loose.window (h.windows.filter fun w => w.session = session) win
    | _ :: _ :: _ => none

end Host

/-! ## Commands -/

/-- What a file is written with: a text, or `json.dumps(status, indent=2)` and a newline. -/
inductive Content
  | text (s : String)
  | dumps (status : JsonObj)

/-- The commands that `start` runs on the host of the worker. -/
inductive Command
  /-- `mkdir -p`, `Path.mkdir`. -/
  | mkdir (paths : List String)
  /-- `cat > path`, `Path.write_text`. -/
  | write (path : String) (content : Content)
  /-- `chmod`, with the modes in octal. -/
  | chmod (modes : List (String × String))
  /-- `tmux has-session -t sess`. -/
  | hasSession (sess : String)
  /-- `tmux new-session -d -s sess`. -/
  | newSession (sess : String)
  /-- `tmux has-session -t sess 2>/dev/null || tmux new-session -d -s sess`. -/
  | ensureSession (sess : String)
  /-- `tmux kill-window -t sess:win`. -/
  | killWindow (sess win : String)
  /-- `tmux kill-window -t sess:win 2>/dev/null; true`. -/
  | dropWindow (sess win : String)
  /-- `tmux new-window -a -d -t sess -n win launcher`. -/
  | newWindow (sess win launcher : String)
  /-- `tmux list-panes -t sess:win -F #{pane_id}`. -/
  | listPanes (sess win : String)
  /-- `tmux capture-pane -p -t pane -S -10`. -/
  | capturePane (pane : String)
  /-- `tmux send-keys -t pane key`. -/
  | sendKeys (pane key : String)

/-- `subprocess.CompletedProcess`. -/
structure Completed where
  returncode : Nat := 0
  stdout : String := ""
  stderr : String := ""
  deriving DecidableEq, Repr

namespace Host

variable (loose : Loose)

/-- A new session, unless its name is taken. -/
def newSession (h : Host) (sess : String) : Completed × Host :=
  if h.sessions.contains sess then ({ returncode := 1, stderr := "duplicate session: " ++ sess }, h)
  else ({}, { h with sessions := h.sessions ++ [sess] })

/-- A tmux command on a target that must exist. -/
def onTarget {α : Type} (target : String) (found : Option α) (h : Host)
    (body : α → Completed × Host) : Completed × Host :=
  match found with
  | some a => body a
  | none => ({ returncode := 1, stderr := "can't find " ++ target }, h)

/-- Kill the window of a target. -/
def killWindow (h : Host) (sess win : String) : Completed × Host :=
  onTarget ("window: " ++ win) (h.window? loose sess win) h fun w =>
    ({}, { h with windows := h.windows.filter (· ≠ w) })

/-- A command that runs to its end. `screen` is what the pane shows. -/
def execute (screen : String) (h : Host) : Command → Completed × Host
  | .mkdir _ => ({}, h)
  | .write _ _ => ({}, h)
  | .chmod _ => ({}, h)
  | .hasSession sess =>
    onTarget ("session: " ++ sess) (h.session? loose sess) h fun _ => ({}, h)
  | .newSession sess => h.newSession sess
  | .ensureSession sess =>
    match h.session? loose sess with
    | some _ => ({}, h)
    | none => h.newSession sess
  | .killWindow sess win => h.killWindow loose sess win
  | .dropWindow sess win => ({}, (h.killWindow loose sess win).2)
  | .newWindow sess win _ =>
    onTarget ("session: " ++ sess) (h.session? loose sess) h fun session =>
      ({}, { h with windows := h.windows ++ [⟨session, win, h.panes⟩], panes := h.panes + 1 })
  | .listPanes sess win =>
    onTarget ("window: " ++ win) (h.window? loose sess win) h fun w =>
      ({ stdout := paneId w.pane ++ "\n" }, h)
  | .capturePane pane =>
    onTarget ("pane: " ++ pane) (h.windows.find? fun w => paneId w.pane = pane) h fun _ =>
      ({ stdout := screen }, h)
  | .sendKeys pane _ =>
    onTarget ("pane: " ++ pane) (h.windows.find? fun w => paneId w.pane = pane) h fun _ => ({}, h)

end Host

/-! ## Attempts -/

/-- The fate of one attempt to run a command. -/
inductive Fate
  /-- It runs, and its own result is reported. -/
  | ran (screen : String)
  /-- It fails without an effect on the server. -/
  | failed (returncode : Nat) (stderr : String)
  /-- The connection drops or the client times out, before or after the command has run. -/
  | dropped (executed : Bool)
  /-- The process cannot be started: `subprocess.run` or the file operation raises. -/
  | raised (exc : PyErr)

/-- What `start` performs. -/
inductive RuntimeAct : Type → Type 1
  /-- One attempt of `_ssh`. -/
  | ssh (host : String) (cmd : Command) : RuntimeAct Completed
  /-- `subprocess.run` on this machine. -/
  | run (cmd : Command) : RuntimeAct Completed
  /-- A file operation on this machine. -/
  | file (cmd : Command) : RuntimeAct Unit

/-- The command of an action. -/
def RuntimeAct.command : {β : Type} → RuntimeAct β → Command
  | _, .ssh _ cmd => cmd
  | _, .run cmd => cmd
  | _, .file cmd => cmd

namespace Host

variable (loose : Loose)

/-- What one attempt reports, and the server after it. -/
def attempt (cmd : Command) (fate : Fate) (h : Host) : Except PyErr Completed × Host :=
  match fate with
  | .ran screen => (.ok (h.execute loose screen cmd).1, (h.execute loose screen cmd).2)
  | .failed rc stderr => (.ok { returncode := rc + 1, stderr := stderr }, h)
  | .dropped executed => (.ok { returncode := 255, stderr := "timeout" },
      if executed then (h.execute loose "" cmd).2 else h)
  | .raised exc => (.error exc, h)

/-- A file operation raises `OSError` when it fails. -/
def fileResult : Except PyErr Completed → Except PyErr Unit
  | .ok r => if r.returncode = 0 then .ok () else .error ⟨.osError, r.stderr⟩
  | .error exc => .error exc

/-- What an action does to the host of the worker. -/
def exec (fate : Fate) : {β : Type} → RuntimeAct β → Host → Except PyErr β × Host
  | _, .ssh _ cmd, h => h.attempt loose cmd fate
  | _, .run cmd, h => h.attempt loose cmd fate
  | _, .file cmd, h => (fileResult (h.attempt loose cmd fate).1, (h.attempt loose cmd fate).2)

end Host

abbrev RuntimeProgram (α : Type) := Prog RuntimeAct PyErr α

/-- The tmux server of one host, and one caller. -/
def server (loose : Loose) : System RuntimeAct PyErr Host Fate Unit where
  exec _ _ a fate h := h.exec loose fate a
  program _ := .pure ()
  finish _ h := h
  restart h := h

/-! ## `_ssh` -/

/-- `str.isspace` of a character. -/
def isSpace (c : Char) : Bool :=
  (9 ≤ c.toNat && c.toNat ≤ 13) || (28 ≤ c.toNat && c.toNat ≤ 32) ||
    [0x85, 0xA0, 0x1680, 0x2028, 0x2029, 0x202F, 0x205F, 0x3000].contains c.toNat ||
    (0x2000 ≤ c.toNat && c.toNat ≤ 0x200A)

/-- `s.strip()`. -/
def strip (s : String) : String :=
  String.ofList (((s.toList.dropWhile isSpace).reverse.dropWhile isSpace).reverse)

/-- `re.fullmatch(r"[A-Za-z0-9][A-Za-z0-9._-]*", host)`. -/
def isAlias (host : String) : Bool :=
  match host.toList with
  | [] => false
  | c :: cs => c.isAlphanum && cs.all fun c => c.isAlphanum || ['.', '_', '-'].contains c

/-- `(stderr or stdout or "no error output").strip()[-500:]`. -/
def Completed.detail (r : Completed) : String :=
  let text := strip (if r.stderr ≠ "" then r.stderr
    else if r.stdout ≠ "" then r.stdout else "no error output")
  String.ofList (text.toList.drop (text.toList.length - 500))

/-- The loop of `_ssh`, with this many more attempts after a return code of 255. -/
def sshAttempts (host : String) (cmd : Command) : Nat → RuntimeProgram Completed
  | 0 => call (.ssh host cmd)
  | retries + 1 => do
    let r ← call (.ssh host cmd)
    if r.returncode = 255 then sshAttempts host cmd retries else return r

/-- `_ssh(host, cmd, check=True)`. -/
def ssh (host : String) (cmd : Command) : RuntimeProgram Completed := do
  if !isAlias host then .throw ⟨.valueError, "unsafe SSH host alias: " ++ pyRepr host⟩
  else
    let r ← sshAttempts host cmd 2
    if r.returncode = 0 then return r
    else .throw ⟨.runtimeError, "ssh command failed on " ++ pyRepr host ++ " with rc=" ++
      toString r.returncode ++ ": " ++ r.detail⟩

end Flotilla.Tmux
