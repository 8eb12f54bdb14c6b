import Mathlib.Tactic.Common

/-!
# Shell scripts under `set -e`

Commands of a shell, as far as a script with `errexit` needs them: simple commands, lists, and
subshells with a file descriptor of their own. A command that fails ends the shell, unless it stands
where its status is looked at; a subshell inherits the option.

Results: `eval_or_ok`, for a command whose status is ignored; `eval_subshell`, the status of a
subshell.
-/

namespace Shell

/-- What a simple command does to the shell that runs it: it returns with a status and leaves the
option `errexit` on or off, or the shell ends, as with `exit`, `exec` or a signal. -/
inductive Outcome
  | returns (status : UInt8) (errexit : Bool)
  | leaves (status : UInt8)
  deriving DecidableEq, Repr

def Outcome.status : Outcome → UInt8
  | .returns status _ => status
  | .leaves status => status

/-- Commands, with simple commands of `κ`. -/
inductive Cmd (κ : Type)
  | run (c : κ)
  /-- `true` -/
  | ok
  /-- `name=$?` -/
  | saveStatus (name : String)
  /-- `exit $name` -/
  | exit (name : String)
  /-- A command, and the next one. -/
  | seq (first next : Cmd κ)
  /-- `first || next` -/
  | or (first next : Cmd κ)
  /-- `( body ) fd>file` -/
  | subshell (body : Cmd κ) (fd : Nat)

/-- The simple commands: what they do, with `errexit` on or off, and what it does that a descriptor
is closed. -/
structure Commands (κ ω : Type) where
  run : κ → Bool → ω → Outcome × ω
  close : Nat → ω → ω

/-- A shell: its option, its variables, `$?` and the world outside. -/
structure State (ω : Type) where
  errexit : Bool
  vars : String → UInt8
  last : UInt8
  world : ω

/-- The shell goes on, or has ended. -/
inductive Result (ω : Type)
  | next (s : State ω)
  | exited (status : UInt8) (world : ω)

variable {κ ω : Type}

def Result.status : Result ω → UInt8
  | .next s => s.last
  | .exited status _ => status

def Result.world : Result ω → ω
  | .next s => s.world
  | .exited _ world => world

/-- The check of `errexit` after a command. -/
def settle (ignored : Bool) (s : State ω) : Result ω :=
  if s.errexit && !ignored && s.last ≠ 0 then .exited s.last s.world else .next s

/-- A run of a command; `ignored` says that its status is looked at. -/
def eval (cmds : Commands κ ω) : Cmd κ → Bool → State ω → Result ω
  | .run c, ignored, s =>
    match cmds.run c s.errexit s.world with
    | (.returns status errexit, world) =>
      settle ignored { s with errexit := errexit, last := status, world := world }
    | (.leaves status, world) => .exited status world
  | .ok, _, s => .next { s with last := 0 }
  | .saveStatus name, _, s =>
    .next { s with vars := fun x => if x = name then s.last else s.vars x, last := 0 }
  | .exit name, _, s => .exited (s.vars name) s.world
  | .seq first next, ignored, s =>
    match eval cmds first ignored s with
    | .next s' => eval cmds next ignored s'
    | .exited status world => .exited status world
  | .or first next, ignored, s =>
    match eval cmds first true s with
    | .next s' => if s'.last = 0 then .next s' else eval cmds next ignored s'
    | .exited status world => .exited status world
  | .subshell body fd, ignored, s =>
    -- variables and options of the subshell are its own
    settle ignored
      { s with
        last := (eval cmds body ignored s).status
        world := cmds.close fd (eval cmds body ignored s).world }

variable {cmds : Commands κ ω} {ignored : Bool} {s : State ω}

@[simp] theorem settle_status : (settle ignored s).status = s.last := by
  unfold settle
  split <;> rfl

@[simp] theorem settle_world : (settle ignored s).world = s.world := by
  unfold settle
  split <;> rfl

theorem eval_seq {first next : Cmd κ} {s' : State ω} (h : eval cmds first ignored s = .next s') :
    eval cmds (.seq first next) ignored s = eval cmds next ignored s' := by
  rw [eval, h]

theorem eval_seq_exited {first next : Cmd κ} {status : UInt8} {world : ω}
    (h : eval cmds first ignored s = .exited status world) :
    eval cmds (.seq first next) ignored s = .exited status world := by
  rw [eval, h]

/-- The status of `c || true` is 0, whatever that of `c` is. -/
theorem eval_or_ok {c : κ} {status : UInt8} {world : ω}
    (h : cmds.run c s.errexit s.world = (.returns status s.errexit, world)) :
    eval cmds (.or (.run c) .ok) ignored s = .next { s with last := 0, world := world } := by
  have hrun : eval cmds (.run c) true s = .next { s with last := status, world := world } := by
    rw [eval, h]
    simp [settle]
  rw [eval, hrun]
  dsimp only
  split
  · next hzero => rw [hzero]
  · rfl

/-- A script that is a subshell ends with its status. -/
theorem eval_subshell {body : Cmd κ} {fd : Nat} :
    (eval cmds (.subshell body fd) ignored s).status = (eval cmds body ignored s).status ∧
      (eval cmds (.subshell body fd) ignored s).world
        = cmds.close fd (eval cmds body ignored s).world := by
  rw [eval, settle_status, settle_world]
  exact ⟨rfl, rfl⟩

end Shell
