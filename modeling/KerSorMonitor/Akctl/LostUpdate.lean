import KerSorMonitor.Akctl.Commands

/-!
# Updates of the registry

A command writes the whole registry, as it was when the command loaded it, with its own
assignments. So what other commands have written in between is lost; if each write finds the
registry that its command has loaded, the registry is the replay of all assignments, and an
assignment stays until another one to the same field.

Result: `no_lost_update`; `lost_update` is a run in which a cleanup loses a task that was started.
-/

namespace Akctl

open Keyed Threads

/-! ## Fields -/

/-- What an update assigns. -/
inductive Field
  | task
  | status
  | cleanup
  | monitorWorker
  | monitorLoop
  | orchestrator
  deriving DecidableEq, Repr

def Update.field : Update → Field
  | .addTask _ _ => .task
  | .setStatus _ _ _ => .status
  | .setCleanup _ _ => .cleanup
  | .setMonitorWorker _ _ => .monitorWorker
  | .setMonitorLoop _ _ => .monitorLoop
  | .stopOrchestrator _ _ => .orchestrator

/-- The task of an update. -/
def Update.task? : Update → Option TaskId
  | .addTask tid _ => some tid
  | .setStatus tid _ _ => some tid
  | .setCleanup tid _ => some tid
  | .setMonitorWorker tid _ => some tid
  | .setMonitorLoop tid _ => some tid
  | .stopOrchestrator _ _ => none

/-- `u` assigns the field that `u'` has assigned, or a new record of the task. -/
def Update.Overwrites (u u' : Update) : Prop :=
  u.task? = u'.task? ∧ (u.field = u'.field ∨ u.field = .task)

instance (u u' : Update) : Decidable (u.Overwrites u') := inferInstanceAs (Decidable (_ ∧ _))

/-- The record has what the update has assigned. -/
def Update.HoldsOf (u : Update) (r : Record) : Prop :=
  match u with
  | .addTask _ record => r.workspace = record.workspace ∧ r.smoke = record.smoke ∧
      r.gpu = record.gpu ∧ r.worker = record.worker
  | .setStatus _ state reason => r.status = some state ∧ r.statusReason = some reason
  | .setCleanup _ cleanup => r.cleanup = some cleanup
  | .setMonitorWorker _ pane => r.monitor.worker = some pane
  | .setMonitorLoop _ loop => r.monitor.loop = some loop
  | .stopOrchestrator _ _ => True

/-- What the update has assigned is in the registry. -/
def Update.Present (u : Update) (registry : Registry) : Prop :=
  match u with
  | .stopOrchestrator reason cleanup => ∃ o, registry.orchestrator = some o ∧
      o.stopReason = some reason ∧ o.cleanup = some cleanup
  | u => ∀ tid, u.task? = some tid → ∃ r, Dict.get? registry.tasks tid = some r ∧ u.HoldsOf r

/-! ## What an assignment leaves -/

/-- An assignment to a field of a task changes the record of that task only. -/
theorem get?_apply {u : Update} {registry : Registry} {tid : TaskId} (h : u.fieldOf = some tid)
    (tid' : TaskId) : Dict.get? (u.apply registry).tasks tid' =
      if tid' = tid then (Dict.get? registry.tasks tid).map u.onRecord
      else Dict.get? registry.tasks tid' := by
  cases hget : Dict.get? registry.tasks tid with
  | none =>
    have hnone : u.apply registry = registry := by
      cases u <;> cases h <;> simp [Update.apply, hget]
    rw [hnone]
    split
    · next heq =>
      rw [heq]
      exact hget
    · rfl
  | some record =>
    have hset : u.apply registry = registry.setTask tid (u.onRecord record) := by
      cases u <;> cases h <;> simp [Update.apply, hget]
    rw [hset, get?_setTask]
    rfl

theorem orchestrator_apply {u : Update} (registry : Registry) (h : u.field ≠ .orchestrator) :
    (u.apply registry).orchestrator = registry.orchestrator := by
  cases u with
  | stopOrchestrator reason cleanup => exact absurd rfl h
  | addTask tid record => rfl
  | setStatus tid _ _ | setCleanup tid _ | setMonitorWorker tid _ | setMonitorLoop tid _ =>
    unfold Update.apply
    dsimp only
    split <;> rfl

/-- An assignment leaves what it assigns. -/
theorem present_apply {u : Update} {registry : Registry} (h : u.Applies registry) :
    u.Present (u.apply registry) := by
  have hfield : ∀ tid, u.fieldOf = some tid → (∀ r, u.HoldsOf (u.onRecord r)) →
      ∃ r, Dict.get? (u.apply registry).tasks tid = some r ∧ u.HoldsOf r := by
    intro tid htid hholds
    obtain ⟨record, hrecord⟩ := Option.isSome_iff_exists.mp (h tid htid)
    exact ⟨u.onRecord record, by rw [get?_apply htid, if_pos rfl, hrecord]; rfl, hholds record⟩
  cases u with
  | addTask tid record =>
    intro tid' htid
    cases htid
    exact ⟨record, by rw [Update.apply, get?_setTask, if_pos rfl], rfl, rfl, rfl, rfl⟩
  | setStatus tid state reason =>
    intro tid' htid
    cases htid
    exact hfield tid rfl fun _ => ⟨rfl, rfl⟩
  | setCleanup tid cleanup =>
    intro tid' htid
    cases htid
    exact hfield tid rfl fun _ => rfl
  | setMonitorWorker tid pane =>
    intro tid' htid
    cases htid
    exact hfield tid rfl fun _ => rfl
  | setMonitorLoop tid loop =>
    intro tid' htid
    cases htid
    exact hfield tid rfl fun _ => rfl
  | stopOrchestrator reason cleanup => exact ⟨_, rfl, rfl, rfl⟩

/-- An assignment to another field of the record. -/
theorem holdsOf_onRecord {u u' : Update} {r : Record} (h : u'.HoldsOf r) (hne : u.field ≠ u'.field) :
    u'.HoldsOf (u.onRecord r) := by
  cases u' <;> cases u <;> first | exact h | exact absurd rfl hne

/-- What an update has assigned stays until it is overwritten. -/
theorem present_of_not_overwrites {u u' : Update} {registry : Registry} (h : u'.Present registry)
    (hnot : ¬ u.Overwrites u') : u'.Present (u.apply registry) := by
  have hrecord : ∀ tid, u'.task? = some tid →
      (∃ r, Dict.get? registry.tasks tid = some r ∧ u'.HoldsOf r) →
        ∃ r, Dict.get? (u.apply registry).tasks tid = some r ∧ u'.HoldsOf r := by
    rintro tid htid ⟨r, hget, hholds⟩
    have hfield : ∀ tid', u.fieldOf = some tid' → u.task? = some tid' →
        ∃ r, Dict.get? (u.apply registry).tasks tid = some r ∧ u'.HoldsOf r := by
      intro tid' htid' htask
      rw [get?_apply htid']
      split
      · next heq =>
        subst heq
        refine ⟨u.onRecord r, by rw [hget]; rfl, holdsOf_onRecord hholds fun hsame => ?_⟩
        exact hnot ⟨htask.trans htid.symm, Or.inl hsame⟩
      · exact ⟨r, hget, hholds⟩
    cases u with
    | addTask tid' record =>
      have hne : tid ≠ tid' := fun heq => hnot ⟨by rw [htid, heq]; rfl, Or.inr rfl⟩
      exact ⟨r, by rw [Update.apply, get?_setTask, if_neg hne]; exact hget, hholds⟩
    | stopOrchestrator reason cleanup => exact ⟨r, hget, hholds⟩
    | setStatus tid' _ _ | setCleanup tid' _ | setMonitorWorker tid' _ | setMonitorLoop tid' _ =>
      exact hfield tid' rfl rfl
  cases u' with
  | stopOrchestrator reason cleanup =>
    obtain ⟨o, ho, hreason, hcleanup⟩ := h
    refine ⟨o, ?_, hreason, hcleanup⟩
    rw [orchestrator_apply registry fun hfield => hnot ?_]
    · exact ho
    · cases u <;> first | exact ⟨rfl, Or.inl rfl⟩ | cases hfield
  | addTask tid record => exact fun tid' htid => hrecord tid' htid (h tid' htid)
  | setStatus tid _ _ | setCleanup tid _ | setMonitorWorker tid _ | setMonitorLoop tid _ =>
    exact fun tid' htid => hrecord tid' htid (h tid' htid)

/-- The same for all later updates. -/
theorem present_replay {u : Update} {registry : Registry} {us : List Update}
    (h : u.Present registry) (hnot : ∀ u' ∈ us, ¬ u'.Overwrites u) :
    u.Present (replay registry us) := by
  induction us generalizing registry with
  | nil => exact h
  | cons u' us ih =>
    exact ih (present_of_not_overwrites h (hnot u' List.mem_cons_self))
      fun u'' hu'' => hnot u'' (List.mem_cons_of_mem _ hu'')

/-! ## Runs -/

/-- A command writes only if the registry is the one that it has loaded. -/
def InTurn {α : Type} (a : Act α) (s : World) : Prop :=
  match a with
  | .write d => s.registry = d.loaded
  | _ => True

instance {α : Type} (a : Act α) (s : World) : Decidable (InTurn a s) :=
  match a with
  | .write d => inferInstanceAs (Decidable (s.registry = d.loaded))
  | .load | .legacyWorkspaceExists _ | .createWorkspace _ _ | .startWindow _ | .submitClaudeLoop _
  | .statusFile _ | .writeStatusFile _ _ _ | .killTmuxTarget _ _ => inferInstanceAs (Decidable True)

/-- The registry is the replay of what the writes have assigned. -/
structure LogInv (registry : Registry) (s : World) : Prop where
  replayed : s.registry = replay registry s.log
  valid : Valid registry s.log

theorem LogInv.exec {registry : Registry} {s : World} (h : LogInv registry s) {α : Type}
    {a : Act α} (ha : InTurn a s) (answer : Answer) : LogInv registry (exec a answer s).2 := by
  cases a with
  | write d =>
    have hloaded : replay registry s.log = d.loaded := h.replayed.symm.trans ha
    refine ⟨?_, valid_append.mpr ⟨h.valid, ?_⟩⟩
    · change d.registry = replay registry (s.log ++ d.updates)
      rw [replay_append, hloaded]
      rfl
    · rw [hloaded]
      exact d.valid
  | load => exact h
  | legacyWorkspaceExists task => exact h
  | createWorkspace task smoke => exact h
  | startWindow window => exact h
  | submitClaudeLoop paneId => exact h
  | statusFile workspace => exact h
  | writeStatusFile workspace state reason => exact h
  | killTmuxTarget window dryRun => exact h

/-- In every run in which each write finds the registry that its command has loaded: what a command
has written is in the registry, unless a later command has overwritten it. -/
theorem no_lost_update {inst : Installation} {registry : Registry}
    {events : List (Threads.Event Answer Command)} {c : Config Act String World}
    (hc : Config.run (akctl inst) events (Config.initial ⟨registry, []⟩) = c)
    (hok : Config.Along (akctl inst) (Config.Allows InTurn) events (Config.initial ⟨registry, []⟩))
    {us us' : List Update} {u : Update} (hlog : c.shared.log = us ++ u :: us')
    (hnot : ∀ u' ∈ us', ¬ u'.Overwrites u) : u.Present c.shared.registry := by
  have hinv : LogInv registry c.shared := hc ▸
    Config.run_shared_invariant (fun _ _ answer _ ha h => h.exec ha answer) (fun _ _ h => h)
      (fun _ h => h) hok ⟨rfl, trivial⟩
  have hvalid := hinv.valid
  rw [hlog, valid_append] at hvalid
  rw [hinv.replayed, hlog, replay_append]
  change u.Present (replay (u.apply (replay registry us)) us')
  exact present_replay (present_apply hvalid.2.1) hnot

section Examples

def startB : StartArgs := ⟨"B", ⟨0, "GPU-0"⟩, 1, none, false⟩

/-- Task `B` is started, and then `A` is stopped. -/
def stopAfterStart : List (Threads.Event Answer Command) :=
  .spawn (.startTask startB) :: List.replicate 9 (.step 0 { text := "sent" }) ++
    .spawn (.stopTask "A" "stopped" false) :: .step 1 {} ::
      .step 1 { file := .state (some "phase1") } :: List.replicate 4 (.step 1 { text := "killed" })

/-- What the start writes first. -/
def addB : Update :=
  .addTask "B" (newRecord twoTasks ⟨"B", "b"⟩ ⟨0, "GPU-0"⟩ 1 "active" (some ⟨"", ""⟩))

theorem no_lost_update_stopAfterStart : ∃ us,
    (Config.run (akctl twoTasks) stopAfterStart (Config.initial ⟨oneActive, []⟩)).shared.log =
      [] ++ addB :: us ∧ (∀ u ∈ us, ¬ u.Overwrites addB) ∧
      addB.Present (Config.run (akctl twoTasks) stopAfterStart
        (Config.initial ⟨oneActive, []⟩)).shared.registry := by
  have hok : Config.Along (akctl twoTasks) (Config.Allows InTurn) stopAfterStart
      (Config.initial ⟨oneActive, []⟩) := by decide +kernel
  have hlog : (Config.run (akctl twoTasks) stopAfterStart
      (Config.initial ⟨oneActive, []⟩)).shared.log = [] ++ addB :: (Config.run (akctl twoTasks)
        stopAfterStart (Config.initial ⟨oneActive, []⟩)).shared.log.tail := by decide +kernel
  have hnot : ∀ u ∈ (Config.run (akctl twoTasks) stopAfterStart
      (Config.initial ⟨oneActive, []⟩)).shared.log.tail, ¬ u.Overwrites addB := by decide +kernel
  exact ⟨_, hlog, hnot, no_lost_update rfl hok hlog hnot⟩

/-- The same, where `A` is stopped with the registry from before the start. -/
def stopDuringStart : List (Threads.Event Answer Command) :=
  .spawn (.stopTask "A" "stopped" false) :: .step 0 {} :: .spawn (.startTask startB) ::
    List.replicate 5 (.step 1 {}) ++ .step 0 { file := .state (some "phase1") } ::
      List.replicate 4 (.step 0 { text := "killed" }) ++ List.replicate 3 (.step 1 { text := "sent" })

/-- Task `B` has been added, no update has overwritten it, no command is left, and the registry
does not have it: its worker runs on, and its place counts as free. -/
theorem lost_update : ∃ us,
    (Config.run (akctl twoTasks) stopDuringStart (Config.initial ⟨oneActive, []⟩)).Quiescent ∧
      (Config.run (akctl twoTasks) stopDuringStart (Config.initial ⟨oneActive, []⟩)).shared.log =
        [] ++ addB :: us ∧ (∀ u ∈ us, ¬ u.Overwrites addB) ∧
      ¬ addB.Present (Config.run (akctl twoTasks) stopDuringStart
        (Config.initial ⟨oneActive, []⟩)).shared.registry := by
  refine ⟨(Config.run (akctl twoTasks) stopDuringStart
    (Config.initial ⟨oneActive, []⟩)).shared.log.tail, List.isEmpty_iff.mp (by decide +kernel),
    by decide +kernel, by decide +kernel, fun hpresent => ?_⟩
  obtain ⟨record, hget, -⟩ := hpresent "B" rfl
  have hnone : Dict.get? (Config.run (akctl twoTasks) stopDuringStart
      (Config.initial ⟨oneActive, []⟩)).shared.registry.tasks "B" = none := by decide +kernel
  exact absurd (hnone.symm.trans hget) (by simp)

end Examples

end Akctl
