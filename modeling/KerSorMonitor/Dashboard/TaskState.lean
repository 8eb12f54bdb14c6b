import KerSorMonitor.Lib.Keyed
import KerSorMonitor.Lib.Ordered
import Mathlib.Data.Finset.Basic
import Mathlib.Data.List.Induction
import Mathlib.Data.String.Basic

/-!
# Task maps of the dashboard (`dashboard/src/taskState.ts`)

The dashboard shows the records that the server lists, enriched with the telemetry of the live
events. An event alone never makes a task.

Results:
1. `enrichTask_shows`: an enriched task shows the fields of the event.
2. `isSome_reconcileTaskSnapshot`, `reconcileTaskSnapshot_shows`: the snapshot has the listed tasks
   that are not deleted, and each shows the last event that was buffered for it.
-/

namespace Dashboard

open Keyed

abbrev TaskId := String

/-- A task, as it is listed and as it is displayed. `rest` are its other fields, with their JSON
texts. -/
structure Task where
  id : TaskId
  name : String
  state : String
  runtime : String
  rest : Dict String String
  deriving DecidableEq

/-- A live event: the fields of a task that it has, or a tombstone. -/
structure TaskTelemetry where
  id : TaskId
  deleted : Bool
  name : Option String
  state : Option String
  runtime : Option String
  rest : Dict String String
  deriving DecidableEq

abbrev TaskMap := Dict TaskId Task

/-- `{ ...fields, ...others }` -/
def spread (fields others : Dict String String) : Dict String String :=
  others.rows.foldl (fun d e => Dict.set d e.1 e.2) fields

def enrichTask (task : Task) (telemetry : TaskTelemetry) : Task where
  id := task.id
  name := telemetry.name.getD task.name
  state := telemetry.state.getD task.state
  runtime := telemetry.runtime.getD task.runtime
  rest := spread task.rest telemetry.rest

/-- One buffered event of `reconcileTaskSnapshot`. -/
def applyBuffered (deletedTaskIds : Finset TaskId) (tasks : TaskMap) (telemetry : TaskTelemetry) :
    TaskMap :=
  if telemetry.deleted then Dict.pop tasks telemetry.id
  else
    match Dict.get? tasks telemetry.id with
    | some current =>
      if telemetry.id ∈ deletedTaskIds then tasks
      else Dict.set tasks telemetry.id (enrichTask current telemetry)
    | none => tasks

def reconcileTaskSnapshot (records : List Task) (bufferedTelemetry : List TaskTelemetry)
    (deletedTaskIds : Finset TaskId) : TaskMap :=
  bufferedTelemetry.foldl (applyBuffered deletedTaskIds)
    ((records.filter fun record => record.id ∉ deletedTaskIds).foldl
      (fun tasks record => Dict.set tasks record.id record) Table.empty)

def mergeKnownTask (tasks : TaskMap) (telemetry : TaskTelemetry) (deletedTaskIds : Finset TaskId) :
    TaskMap :=
  match Dict.get? tasks telemetry.id with
  | some current =>
    if telemetry.deleted || telemetry.id ∈ deletedTaskIds then Dict.pop tasks telemetry.id
    else Dict.set tasks telemetry.id (enrichTask current telemetry)
  | none => tasks

/-! ## What a task shows -/

/-- The task has the fields of the event. -/
structure Task.Shows (task : Task) (telemetry : TaskTelemetry) : Prop where
  name : ∀ s, telemetry.name = some s → task.name = s
  state : ∀ s, telemetry.state = some s → task.state = s
  runtime : ∀ s, telemetry.runtime = some s → task.runtime = s
  rest : ∀ key value, Dict.get? telemetry.rest key = some value → Dict.get? task.rest key = some value

theorem get?_spread (fields others : Dict String String) (key : String) :
    Dict.get? (spread fields others) key = (Dict.get? others key).or (Dict.get? fields key) := by
  refine (Dict.get?_foldl_set Prod.fst Prod.snd others.rows fields key).trans ?_
  congr 1
  cases hfind : others.rows.reverse.find? fun e => e.1 = key with
  | none =>
    cases hget : Dict.get? others key with
    | none => rfl
    | some value =>
      have hmem : (key, value) ∈ others.rows.reverse :=
        List.mem_reverse.mpr (Dict.mem_rows_iff.mpr hget)
      exact absurd (List.find?_eq_none.mp hfind _ hmem) (by simp)
  | some e =>
    have hkey : e.1 = key := by simpa using List.find?_some hfind
    have hmem : (key, e.2) ∈ others.rows :=
      hkey ▸ List.mem_reverse.mp (List.mem_of_find?_eq_some hfind)
    exact (Dict.mem_rows_iff.mp hmem).symm

theorem enrichTask_shows (task : Task) (telemetry : TaskTelemetry) :
    (enrichTask task telemetry).Shows telemetry where
  name s h := by
    rw [enrichTask, h]
    rfl
  state s h := by
    rw [enrichTask, h]
    rfl
  runtime s h := by
    rw [enrichTask, h]
    rfl
  rest key value h := by
    rw [enrichTask, get?_spread, h]
    rfl

/-- The last event of a task. -/
def lastOf (id : TaskId) (events : List TaskTelemetry) : Option TaskTelemetry :=
  events.reverse.find? fun e => e.id = id

theorem lastOf_concat (id : TaskId) (events : List TaskTelemetry) (live : TaskTelemetry) :
    lastOf id (events ++ [live]) = if live.id = id then some live else lastOf id events := by
  rw [lastOf, List.reverse_append, List.reverse_singleton, List.singleton_append, List.find?_cons]
  by_cases h : live.id = id <;> simp [h, lastOf]

theorem lastOf_eq_none {id : TaskId} {events : List TaskTelemetry} :
    lastOf id events = none ↔ ∀ live ∈ events, live.id ≠ id := by
  simp [lastOf, List.find?_eq_none]

theorem mem_of_lastOf {id : TaskId} {events : List TaskTelemetry} {live : TaskTelemetry}
    (h : lastOf id events = some live) : live ∈ events ∧ live.id = id :=
  ⟨List.mem_reverse.mp (List.mem_of_find?_eq_some h), by simpa using List.find?_some h⟩

/-! ## What the maps hold -/

/-- The map shows each task with the last of the events that it has. -/
def ShowsLast (tasks : TaskMap) (events : List TaskTelemetry) : Prop :=
  ∀ id task live, Dict.get? tasks id = some task → lastOf id events = some live → task.Shows live

theorem get?_mergeKnownTask {tasks : TaskMap} {telemetry : TaskTelemetry}
    {deletedTaskIds : Finset TaskId} (hlive : telemetry.deleted = false)
    (hnot : telemetry.id ∉ deletedTaskIds) (id : TaskId) :
    Dict.get? (mergeKnownTask tasks telemetry deletedTaskIds) id =
      if id = telemetry.id then (Dict.get? tasks id).map (enrichTask · telemetry)
      else Dict.get? tasks id := by
  unfold mergeKnownTask
  cases hget : Dict.get? tasks telemetry.id with
  | none =>
    dsimp only
    split
    · next heq =>
      rw [heq, hget]
      rfl
    · rfl
  | some current =>
    dsimp only
    rw [if_neg (by simp [hlive, hnot]), Dict.get?_set]
    split
    · next heq =>
      rw [heq, hget]
      rfl
    · rfl

/-- A tombstone removes its task. -/
theorem get?_mergeKnownTask_deleted {tasks : TaskMap} {telemetry : TaskTelemetry}
    {deletedTaskIds : Finset TaskId} (hdeleted : telemetry.deleted = true) (id : TaskId) :
    Dict.get? (mergeKnownTask tasks telemetry deletedTaskIds) id =
      if id = telemetry.id then none else Dict.get? tasks id := by
  unfold mergeKnownTask
  cases hget : Dict.get? tasks telemetry.id with
  | none =>
    dsimp only
    split
    · next heq => rw [heq, hget]
    · rfl
  | some current =>
    dsimp only
    rw [if_pos (by simp [hdeleted]), Dict.get?_pop]

theorem get?_applyBuffered {tasks : TaskMap} {telemetry : TaskTelemetry}
    {deletedTaskIds : Finset TaskId} (hlive : telemetry.deleted = false)
    (htasks : ∀ id ∈ deletedTaskIds, Dict.get? tasks id = none) (id : TaskId) :
    Dict.get? (applyBuffered deletedTaskIds tasks telemetry) id =
      if id = telemetry.id then (Dict.get? tasks id).map (enrichTask · telemetry)
      else Dict.get? tasks id := by
  unfold applyBuffered
  rw [if_neg (by simp [hlive])]
  cases hget : Dict.get? tasks telemetry.id with
  | none =>
    dsimp only
    split
    · next heq =>
      rw [heq, hget]
      rfl
    · rfl
  | some current =>
    have hnot : telemetry.id ∉ deletedTaskIds := fun hmem => by
      rw [htasks _ hmem] at hget
      cases hget
    dsimp only
    rw [if_neg hnot, Dict.get?_set]
    split
    · next heq =>
      rw [heq, hget]
      rfl
    · rfl

theorem get?_records (records : List Task) (deletedTaskIds : Finset TaskId) (id : TaskId) :
    (Dict.get? ((records.filter fun record => record.id ∉ deletedTaskIds).foldl
      (fun tasks record => Dict.set tasks record.id record) Table.empty) id).isSome ↔
      id ∈ records.map Task.id ∧ id ∉ deletedTaskIds := by
  rw [Dict.get?_foldl_set Task.id (fun record => record), Dict.get?_empty, Option.or_none,
    Option.isSome_map, List.find?_isSome, List.mem_map]
  constructor
  · rintro ⟨record, hmem, hid⟩
    obtain ⟨hmem, hnot⟩ := List.mem_filter.mp (List.mem_reverse.mp hmem)
    have hid : record.id = id := by simpa using hid
    exact ⟨⟨record, hmem, hid⟩, by simpa [hid] using hnot⟩
  · rintro ⟨⟨record, hmem, hid⟩, hnot⟩
    exact ⟨record, List.mem_reverse.mpr (List.mem_filter.mpr ⟨hmem, by simpa [hid] using hnot⟩),
      by simpa using hid⟩

section Snapshot

variable {records : List Task} {buffered : List TaskTelemetry} {deletedTaskIds : Finset TaskId}

theorem reconcileTaskSnapshot_concat (live : TaskTelemetry) :
    reconcileTaskSnapshot records (buffered ++ [live]) deletedTaskIds =
      applyBuffered deletedTaskIds (reconcileTaskSnapshot records buffered deletedTaskIds) live := by
  rw [reconcileTaskSnapshot, List.foldl_append]
  rfl

theorem isSome_reconcileTaskSnapshot (hlive : ∀ live ∈ buffered, live.deleted = false)
    (id : TaskId) : (Dict.get? (reconcileTaskSnapshot records buffered deletedTaskIds) id).isSome ↔
      id ∈ records.map Task.id ∧ id ∉ deletedTaskIds := by
  induction buffered using List.reverseRecOn generalizing id with
  | nil => exact get?_records records deletedTaskIds id
  | append_singleton buffered live ih =>
    have ih := ih fun live' hmem => hlive live' (List.mem_append_left _ hmem)
    have hgone : ∀ id ∈ deletedTaskIds,
        Dict.get? (reconcileTaskSnapshot records buffered deletedTaskIds) id = none := by
      intro id hid
      rw [← Option.not_isSome_iff_eq_none, ih id]
      exact fun h => h.2 hid
    rw [reconcileTaskSnapshot_concat,
      get?_applyBuffered (hlive live (List.mem_append_right _ List.mem_cons_self)) hgone]
    split
    · rw [Option.isSome_map, ih id]
    · exact ih id

/-- The keys of the snapshot are the ids of its tasks. -/
theorem reconcileTaskSnapshot_key (hlive : ∀ live ∈ buffered, live.deleted = false) {id : TaskId}
    {task : Task} (h : Dict.get? (reconcileTaskSnapshot records buffered deletedTaskIds) id = some task) :
    task.id = id := by
  induction buffered using List.reverseRecOn generalizing id task with
  | nil =>
    replace h := (Dict.get?_foldl_set Task.id (fun record => record) _ Table.empty id).symm.trans h
    rw [Dict.get?_empty, Option.or_none, Option.map_id'] at h
    simpa using List.find?_some h
  | append_singleton buffered live ih =>
    have hlive' : ∀ live' ∈ buffered, live'.deleted = false := fun live' hmem =>
      hlive live' (List.mem_append_left _ hmem)
    have hgone : ∀ id ∈ deletedTaskIds,
        Dict.get? (reconcileTaskSnapshot records buffered deletedTaskIds) id = none := by
      intro id hid
      rw [← Option.not_isSome_iff_eq_none, isSome_reconcileTaskSnapshot hlive' id]
      exact fun h => h.2 hid
    rw [reconcileTaskSnapshot_concat,
      get?_applyBuffered (hlive live (List.mem_append_right _ List.mem_cons_self)) hgone] at h
    split at h
    · obtain ⟨current, hcurrent, rfl⟩ := Option.map_eq_some_iff.mp h
      have hid : current.id = id := ih hlive' hcurrent
      exact hid
    · exact ih hlive' h

/-- The buffered events are applied in order, so that the last one wins. -/
theorem reconcileTaskSnapshot_shows (hlive : ∀ live ∈ buffered, live.deleted = false) :
    ShowsLast (reconcileTaskSnapshot records buffered deletedTaskIds) buffered := by
  induction buffered using List.reverseRecOn with
  | nil => exact fun id task live _ hlast => by cases hlast
  | append_singleton buffered live ih =>
    have hlive' : ∀ live' ∈ buffered, live'.deleted = false := fun live' hmem =>
      hlive live' (List.mem_append_left _ hmem)
    have hgone : ∀ id ∈ deletedTaskIds,
        Dict.get? (reconcileTaskSnapshot records buffered deletedTaskIds) id = none := by
      intro id hid
      rw [← Option.not_isSome_iff_eq_none, isSome_reconcileTaskSnapshot hlive' id]
      exact fun h => h.2 hid
    intro id task last hget hlast
    rw [reconcileTaskSnapshot_concat,
      get?_applyBuffered (hlive live (List.mem_append_right _ List.mem_cons_self)) hgone] at hget
    rw [lastOf_concat] at hlast
    by_cases hid : live.id = id
    · rw [if_pos hid] at hlast
      rw [if_pos hid.symm] at hget
      cases hlast
      obtain ⟨current, -, rfl⟩ := Option.map_eq_some_iff.mp hget
      exact enrichTask_shows current live
    · rw [if_neg hid] at hlast
      rw [if_neg (Ne.symm hid)] at hget
      exact ih hlive' id task last hget hlast

end Snapshot

end Dashboard
