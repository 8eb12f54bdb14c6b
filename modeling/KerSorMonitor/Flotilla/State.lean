import KerSorMonitor.Flotilla.Errors

/-!
# Task states (`flotilla/state.py`)

The ten states of a task row and the transition table `_ALLOWED`. The `CHECK` constraint of
the `task` table is the type `TaskState`; a requested target is any text, as in the source,
and `transition` rejects the texts that name no state.

Results:
1. `transition_eq_ok`: what an accepted transition is.
2. `not_allowed_from_absorbing`: nothing leaves `DONE`, `FAILED` and `CANCELLED`.
-/

namespace Flotilla

/-- `STATES`. -/
inductive TaskState
  | planned | queued | dispatching | running | paused
  | done | failed | stuck | cancelled | lost
  deriving DecidableEq, Repr

namespace TaskState

/-- The text of a state, as stored in the `state` column. -/
def name : TaskState → String
  | planned => "PLANNED"
  | queued => "QUEUED"
  | dispatching => "DISPATCHING"
  | running => "RUNNING"
  | paused => "PAUSED"
  | done => "DONE"
  | failed => "FAILED"
  | stuck => "STUCK"
  | cancelled => "CANCELLED"
  | lost => "LOST"

/-- Every state, in the order of the `CHECK` constraint. -/
def all : List TaskState :=
  [planned, queued, dispatching, running, paused, done, failed, stuck, cancelled, lost]

/-- The state that a text names. -/
def ofName? (s : String) : Option TaskState := all.find? fun st => st.name = s

/-- `{"DONE", "FAILED", "CANCELLED", "LOST"}`: the states `retire` takes as already terminal. -/
def isTerminal : TaskState → Bool
  | done | failed | cancelled | lost => true
  | _ => false

/-- `{"RUNNING", "PAUSED", "STUCK"}`: the states of a task that has a worker. -/
def isLive : TaskState → Bool
  | running | paused | stuck => true
  | _ => false

theorem ofName?_name (st : TaskState) : ofName? st.name = some st := by
  cases st <;> decide

theorem name_of_ofName? {s : String} {st : TaskState} (h : ofName? s = some st) :
    st.name = s := by
  simpa using List.find?_some h

end TaskState

open TaskState

/-- `_ALLOWED`. -/
def allowed : List (TaskState × TaskState) :=
  [(planned, queued), (planned, cancelled),
   (queued, dispatching), (queued, running), (queued, cancelled),
   (dispatching, running), (dispatching, queued), (dispatching, failed),
   (dispatching, cancelled), (dispatching, lost),
   (running, done), (running, failed), (running, stuck), (running, paused),
   (running, cancelled), (running, lost),
   (paused, running), (paused, done), (paused, failed), (paused, cancelled), (paused, lost),
   (stuck, running), (stuck, done), (stuck, failed), (stuck, cancelled), (stuck, lost),
   (lost, queued), (lost, failed), (lost, cancelled)]

/-- `transition`: the state that a row in `current` takes when `target` is requested. -/
def transition (current : TaskState) (target : String) : Except PyErr TaskState :=
  match ofName? target with
  | none =>
    .error ⟨.illegalTransition,
      "unknown state: " ++ pyRepr current.name ++ " -> " ++ pyRepr target⟩
  | some st =>
    if current = st then .ok current
    else if (current, st) ∈ allowed then .ok st
    else .error ⟨.illegalTransition, "illegal transition: " ++ current.name ++ " -> " ++ target⟩

/-- An accepted transition names its target and stays in the table, or changes nothing. -/
theorem transition_eq_ok {current st : TaskState} {target : String}
    (h : transition current target = .ok st) :
    ofName? target = some st ∧ (current = st ∨ (current, st) ∈ allowed) := by
  unfold transition at h
  split at h
  · cases h
  · next st' hst =>
    split at h
    · next heq =>
      cases h
      exact ⟨heq ▸ hst, Or.inl rfl⟩
    · split at h
      · next hmem =>
        cases h
        exact ⟨hst, Or.inr hmem⟩
      · cases h

/-- A refused transition is an `IllegalTransition`. -/
theorem transition_eq_error {current : TaskState} {target : String} {e : PyErr}
    (h : transition current target = .error e) : e.cls = .illegalTransition := by
  unfold transition at h
  split at h
  · cases h; rfl
  · split at h
    · cases h
    · split at h
      · cases h
      · cases h; rfl

theorem transition_name {current st : TaskState} :
    transition current st.name =
      if current = st then .ok current
      else if (current, st) ∈ allowed then .ok st
      else .error ⟨.illegalTransition,
        "illegal transition: " ++ current.name ++ " -> " ++ st.name⟩ := by
  simp [transition, ofName?_name]

/-- `DONE`, `FAILED` and `CANCELLED` have no way out; `LOST` may be recovered or closed. -/
theorem not_allowed_from_absorbing {st st' : TaskState}
    (h : st = done ∨ st = failed ∨ st = cancelled) : (st, st') ∉ allowed := by
  rcases h with rfl | rfl | rfl <;> cases st' <;> decide

end Flotilla
