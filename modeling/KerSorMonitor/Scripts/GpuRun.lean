import KerSorMonitor.Lib.Shell

/-!
# A command under the GPU lock (`scripts/gpu-run.sh`)

The script takes the lock of a GPU, pins its clocks, runs a command and resets the clocks. The resets
stand behind the command, in a subshell that has inherited `errexit`.

Result: `resets_iff`: the clocks are reset exactly behind commands that come back to the subshell with
status 0, or with `errexit` off.
-/

namespace Scripts

open Shell

namespace GpuRun

/-- The simple commands of the locked section. -/
inductive Call
  /-- `flock -x 200` -/
  | flock
  /-- `nvidia-smi -i "$GPU_ID" -lgc 1980,1980` -/
  | lockGraphicsClock
  /-- `nvidia-smi -i "$GPU_ID" -lmc 2619` -/
  | lockMemoryClock
  /-- `"$@"` -/
  | wrapped
  /-- `nvidia-smi -i "$GPU_ID" -rgc` -/
  | resetGraphicsClock
  /-- `nvidia-smi -i "$GPU_ID" -rmc` -/
  | resetMemoryClock
  deriving DecidableEq, Repr

/-- What happens: a command has run, or the descriptor of the lock is closed. -/
inductive Event
  | ran (c : Call)
  | released
  deriving DecidableEq, Repr

/-- The statuses of `flock` and of the calls of `nvidia-smi`, and what the wrapped command does. It can
be a builtin: `exit`, `exec`, or an `eval` that turns `errexit` off. -/
structure Environment where
  flock : UInt8
  nvidiaSmi : Call → UInt8
  wrapped : Outcome

def commands (env : Environment) : Commands Call (List Event) where
  run
    | .flock, errexit, world => (.returns env.flock errexit, world ++ [.ran .flock])
    | .wrapped, _, world => (env.wrapped, world ++ [.ran .wrapped])
    | c, errexit, world => (.returns (env.nvidiaSmi c) errexit, world ++ [.ran c])
  close _ world := world ++ [.released]

/-- The body of the locked section of `gpu-run.sh`. -/
def lockedBody : Cmd Call :=
  .seq (.run .flock)
    (.seq (.or (.run .lockGraphicsClock) .ok)
      (.seq (.or (.run .lockMemoryClock) .ok)
        (.seq (.run .wrapped)
          (.seq (.saveStatus "EXIT_CODE")
            (.seq (.or (.run .resetGraphicsClock) .ok)
              (.seq (.or (.run .resetMemoryClock) .ok)
                (.exit "EXIT_CODE")))))))

/-- `set -euo pipefail` -/
def start : State (List Event) := ⟨true, fun _ => 0, 0, []⟩

/-- The script from the locked section on. -/
def gpuRun (env : Environment) : Result (List Event) :=
  eval (commands env) (.subshell lockedBody 200) false start

/-- The clocks are reset before the lock is released, and the script has the status of the command. -/
structure ResetsClocks (env : Environment) : Prop where
  resets : ∃ before behind, (gpuRun env).world = before ++ .released :: behind ∧
    .ran .resetGraphicsClock ∈ before ∧ .ran .resetMemoryClock ∈ before
  status : (gpuRun env).status = env.wrapped.status

/-- The command comes back to the subshell, with status 0 or with `errexit` off. -/
def ComesBack : Outcome → Prop
  | .returns status errexit => status = 0 ∨ errexit = false
  | .leaves _ => False

namespace Lemmas

variable {env : Environment}

/-- The commands up to the wrapped one. -/
def pinned : List Event := [.ran .flock, .ran .lockGraphicsClock, .ran .lockMemoryClock]

/-- Once the lock is held, the wrapped command runs. -/
theorem eval_pinned (hlock : env.flock = 0) :
    eval (commands env) lockedBody false start
      = eval (commands env) (.seq (.run .wrapped) (.seq (.saveStatus "EXIT_CODE")
          (.seq (.or (.run .resetGraphicsClock) .ok)
            (.seq (.or (.run .resetMemoryClock) .ok) (.exit "EXIT_CODE"))))) false
          { start with world := pinned } := by
  have hflock : eval (commands env) (.run .flock) false start
      = .next { start with world := [.ran .flock] } := by
    simp [eval, commands, hlock, settle, start]
  refine (eval_seq hflock).trans ?_
  refine (eval_seq (eval_or_ok (c := Call.lockGraphicsClock) rfl)).trans ?_
  exact eval_seq (eval_or_ok (c := Call.lockMemoryClock) rfl)

/-- The end of the body, behind a command that has come back. -/
theorem eval_resets {s : State (List Event)} :
    eval (commands env) (.seq (.saveStatus "EXIT_CODE")
        (.seq (.or (.run .resetGraphicsClock) .ok)
          (.seq (.or (.run .resetMemoryClock) .ok) (.exit "EXIT_CODE")))) false s
      = .exited s.last (s.world ++ [.ran .resetGraphicsClock] ++ [.ran .resetMemoryClock]) := by
  refine (eval_seq rfl).trans ?_
  refine (eval_seq (eval_or_ok (c := Call.resetGraphicsClock) rfl)).trans ?_
  exact eval_seq (eval_or_ok (c := Call.resetMemoryClock) rfl)

/-- Behind a command that comes back the clocks are reset. -/
theorem eval_body_of_comesBack (hlock : env.flock = 0) (h : ComesBack env.wrapped) :
    eval (commands env) lockedBody false start = .exited env.wrapped.status
      (pinned ++ [.ran .wrapped] ++ [.ran .resetGraphicsClock] ++ [.ran .resetMemoryClock]) := by
  rw [eval_pinned hlock]
  cases hwrapped : env.wrapped with
  | leaves status =>
    rw [hwrapped] at h
    exact h.elim
  | returns status errexit =>
    rw [hwrapped] at h
    have hrun : eval (commands env) (.run .wrapped) false { start with world := pinned }
        = .next ⟨errexit, start.vars, status, pinned ++ [.ran .wrapped]⟩ := by
      rcases h with rfl | rfl <;> simp [eval, commands, hwrapped, settle]
    rw [eval_seq hrun, eval_resets]
    rfl

/-- A command that does not come back ends the subshell. -/
theorem eval_body_of_not_comesBack (hlock : env.flock = 0) (h : ¬ ComesBack env.wrapped) :
    eval (commands env) lockedBody false start
      = .exited env.wrapped.status (pinned ++ [.ran .wrapped]) := by
  rw [eval_pinned hlock]
  refine eval_seq_exited ?_
  cases hwrapped : env.wrapped with
  | leaves status => simp [eval, commands, hwrapped, Outcome.status]
  | returns status errexit =>
    rw [hwrapped] at h
    obtain ⟨hstatus, herrexit⟩ := not_or.mp h
    simp [eval, commands, hwrapped, settle, hstatus, herrexit, Outcome.status]

/-- The script ends with the status of the subshell, and with the release of the lock. -/
theorem gpuRun_eq {status : UInt8} {world : List Event}
    (h : eval (commands env) lockedBody false start = .exited status world) :
    (gpuRun env).status = status ∧ (gpuRun env).world = world ++ [.released] := by
  obtain ⟨hstatus, hworld⟩ := @eval_subshell _ _ (commands env) false start lockedBody 200
  rw [h] at hstatus hworld
  exact ⟨hstatus, hworld⟩

theorem mem_world_of_resetsClocks (h : ResetsClocks env) :
    Event.ran .resetGraphicsClock ∈ (gpuRun env).world := by
  obtain ⟨before, behind, hsplit, hreset, -⟩ := h.resets
  rw [hsplit]
  exact List.mem_append_left _ hreset

end Lemmas

open Lemmas in
/-- Once the lock is held, the clocks are reset and the status is that of the command exactly if the
command comes back. -/
theorem resets_iff (env : Environment) :
    (env.flock = 0 → ResetsClocks env) ↔ (env.flock = 0 → ComesBack env.wrapped) := by
  refine forall_congr' fun hlock => ⟨fun h => ?_, fun h => ?_⟩
  · by_contra hnot
    obtain ⟨-, hworld⟩ := gpuRun_eq (eval_body_of_not_comesBack hlock hnot)
    -- no reset is among the events
    have hmem := mem_world_of_resetsClocks h
    rw [hworld] at hmem
    exact absurd hmem (by decide)
  · obtain ⟨hstatus, hworld⟩ := gpuRun_eq (eval_body_of_comesBack hlock h)
    exact ⟨⟨_, [], hworld, by decide, by decide⟩, hstatus⟩

/-- Under `errexit` the status of the script is that of the command, also where the clocks stay
pinned. -/
theorem status_eq (env : Environment) (hlock : env.flock = 0) :
    (gpuRun env).status = env.wrapped.status := by
  by_cases h : ComesBack env.wrapped
  · exact (Lemmas.gpuRun_eq (Lemmas.eval_body_of_comesBack hlock h)).1
  · exact (Lemmas.gpuRun_eq (Lemmas.eval_body_of_not_comesBack hlock h)).1

/-- A benchmark that fails. -/
def failing : Environment := ⟨0, fun _ => 0, .returns 1 true⟩

/-- The clocks stay pinned behind a benchmark that fails. -/
theorem stays_pinned : failing.flock = 0 ∧ ¬ ResetsClocks failing ∧ (gpuRun failing).world
    = [.ran .flock, .ran .lockGraphicsClock, .ran .lockMemoryClock, .ran .wrapped, .released] := by
  have hworld : (gpuRun failing).world
      = [.ran .flock, .ran .lockGraphicsClock, .ran .lockMemoryClock, .ran .wrapped, .released] := rfl
  refine ⟨rfl, fun h => ?_, hworld⟩
  have hmem := Lemmas.mem_world_of_resetsClocks h
  rw [hworld] at hmem
  exact absurd hmem (by decide)

end GpuRun

end Scripts
