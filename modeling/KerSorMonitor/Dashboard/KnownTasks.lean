import KerSorMonitor.Flotilla.Models
import KerSorMonitor.Lib.PlainObject
import Mathlib.Data.Finset.Basic
import Mathlib.Data.List.Induction

/-!
# Snapshots as plain objects (`dashboard/src/taskState.ts`)

The task maps of the dashboard are plain objects, and a task is known if the lookup of its id gives
something. An id can be a name that every object inherits: `constructor` and `__proto__` are ids that
the server accepts.

1. `applyBuffered_eq_mergeKnownTask`: on a plain object a buffered event does what a live one does.
2. `isSome_own_foldl`: the ids of a snapshot.
3. `onlyKnown_iff`: the snapshot is the fold of the live merges, with listed ids alone, exactly if no
   event goes through an inherited name.
-/

namespace Dashboard

open Keyed PlainObject
open Flotilla (Json JsonObj PyFloat)

namespace KnownTasks

/-! ## Values -/

/-- Whether `if` takes its branch. -/
def truthyJson : Json → Bool
  | .null => false
  | .bool b => b
  | .int n => n ≠ 0
  | .float (.dec mantissa _) => mantissa ≠ 0
  | .float (.inf _) => true
  | .float .nan => false
  | .str s => s ≠ ""
  | .arr _ | .obj _ => true

/-- The value of a field; `codeUnit` is a string of one UTF-16 code unit. -/
inductive Value
  | undefined
  | json (j : Json)
  | codeUnit (u : UInt16)

def Value.truthy : Value → Bool
  | .undefined => false
  | .json j => truthyJson j
  | .codeUnit _ => true

/-- The fields of a task. -/
abbrev Fields := Dict String Value

abbrev Current := Found Fields Value

/-- An object that the server has sent. It has a field `id`, and no view of the server has a field
`__proto__`. -/
structure Message where
  id : String
  fields : Dict String Json
  hasId : Dict.get? fields "id" = some (.str id)
  plain : Dict.get? fields accessor = none

abbrev TaskRecord := Message

abbrev TaskTelemetry := Message

/-- `telemetry.deleted`, as a condition. -/
def Message.deleted (telemetry : TaskTelemetry) : Bool :=
  ((Dict.get? telemetry.fields "deleted").map truthyJson).getD false

/-- `{ ...record }` -/
def Message.copy (record : Message) : Fields where
  rows := record.fields.rows.map fun e => (e.1, .json e.2)
  nodup := by
    rw [List.map_map]
    exact record.fields.nodup

/-- The code units of a string. -/
def codeUnits (s : String) : List UInt16 :=
  s.toList.flatMap fun c =>
    if c.toNat < 0x10000 then [c.toNat.toUInt16]
    else [(0xD800 + (c.toNat - 0x10000) / 0x400).toUInt16, (0xDC00 + c.toNat % 0x400).toUInt16]

/-- The properties under the indices of a list. -/
def indexed {α : Type} (value : α → Value) (xs : List α) : List (String × Value) :=
  xs.zipIdx.map fun e => (toString e.2, value e.1)

/-- What `...current` spreads. -/
def spread : Current → List (String × Value)
  | .value fields => fields.rows
  | .property (.json (.obj kvs)) => kvs.map fun e => (e.1, .json e.2)
  | .property (.json (.arr xs)) => indexed .json xs
  | .property (.json (.str s)) => indexed .codeUnit (codeUnits s)
  | .property (.codeUnit u) => [("0", .codeUnit u)]
  | _ => []

/-- `current.name`, for a name that only functions inherit. -/
def field : Current → String → Value
  | .value fields, name => (Dict.get? fields name).getD .undefined
  | .property (.json (.obj kvs)), name => ((JsonObj.get? kvs name).map .json).getD .undefined
  | .method method, name =>
    if name = "name" then .json (.str (if method = "constructor" then "Object" else method))
    else .undefined
  | _, _ => .undefined

/-- `telemetry.name ?? current.name` -/
def coalesce (telemetry : TaskTelemetry) (current : Current) (name : String) : Value :=
  match Dict.get? telemetry.fields name with
  | none | some .null => field current name
  | some j => .json j

def enrichTask (current : Current) (telemetry : TaskTelemetry) : Fields :=
  (spread current ++ telemetry.copy.rows ++
    [("id", field current "id"), ("name", coalesce telemetry current "name"),
      ("state", coalesce telemetry current "state"),
      ("runtime", coalesce telemetry current "runtime")]).foldl
    (fun fields e => Dict.set fields e.1 e.2) Table.empty

/-! ## Task maps -/

abbrev TaskMap := Object Fields

/-- `tasks[id]` -/
def lookup (tasks : TaskMap) (id : String) : Current := tasks.get Dict.get? id

/-- `tasks[id]`, as a condition. -/
def known (tasks : TaskMap) (id : String) : Bool := (lookup tasks id).truthy Value.truthy

/-- One record of `reconcileTaskSnapshot`. -/
def addRecord (deletedTaskIds : Finset String) (tasks : TaskMap) (record : TaskRecord) : TaskMap :=
  if record.id ∈ deletedTaskIds then tasks else tasks.assign Dict.get? record.id record.copy

/-- One buffered event of `reconcileTaskSnapshot`. -/
def applyBuffered (deletedTaskIds : Finset String) (tasks : TaskMap) (telemetry : TaskTelemetry) :
    TaskMap :=
  if telemetry.deleted then tasks.delete telemetry.id
  else if known tasks telemetry.id ∧ telemetry.id ∉ deletedTaskIds then
    tasks.assign Dict.get? telemetry.id (enrichTask (lookup tasks telemetry.id) telemetry)
  else tasks

def reconcileTaskSnapshot (records : List TaskRecord) (bufferedTelemetry : List TaskTelemetry)
    (deletedTaskIds : Finset String) : TaskMap :=
  bufferedTelemetry.foldl (applyBuffered deletedTaskIds)
    (records.foldl (addRecord deletedTaskIds) Object.empty)

def mergeKnownTask (tasks : TaskMap) (telemetry : TaskTelemetry) (deletedTaskIds : Finset String) :
    TaskMap :=
  if telemetry.deleted ∨ telemetry.id ∈ deletedTaskIds then
    if known tasks telemetry.id then tasks.copy.delete telemetry.id else tasks
  else if known tasks telemetry.id then
    tasks.copyWith telemetry.id (enrichTask (lookup tasks telemetry.id) telemetry)
  else tasks

section Statement

variable (records : List TaskRecord) (buffered : List TaskTelemetry) (deletedTaskIds : Finset String)

/-- The snapshot is the fold of the live merges, and its ids are those of records that are neither
deleted nor tombstoned. -/
structure OnlyKnown : Prop where
  folds : reconcileTaskSnapshot records buffered deletedTaskIds =
    buffered.foldl (fun tasks telemetry => mergeKnownTask tasks telemetry deletedTaskIds)
      (reconcileTaskSnapshot records [] deletedTaskIds)
  ids : ∀ id, (Dict.get? (reconcileTaskSnapshot records buffered deletedTaskIds).own id).isSome →
    id ∈ records.map Message.id ∧ id ∉ deletedTaskIds ∧
      ∀ telemetry ∈ buffered, telemetry.id = id → telemetry.deleted = false

/-- The last record that sets the prototype of the snapshot. -/
def protoRecord : Option TaskRecord :=
  (records.filter fun record => record.id ∉ deletedTaskIds).reverse.find? fun record =>
    record.id = accessor

/-- Some event has the id, and no later one is a tombstone of it. -/
def Alive (id : String) : Prop :=
  ∃ before telemetry after, buffered = before ++ telemetry :: after ∧ telemetry.id = id ∧
    telemetry.deleted = false ∧ ∀ later ∈ after, later.id = id → later.deleted = false

/-- The events leave the prototype alone, and make no task under the name of a method. -/
structure NoneInherited : Prop where
  accessor : ∀ telemetry ∈ buffered, telemetry.id = accessor →
    telemetry.deleted = true ∨ telemetry.id ∈ deletedTaskIds
  methods : ∀ id ∈ methods, id ∉ deletedTaskIds → Alive buffered id →
    id ∈ records.map Message.id ∧ ∀ telemetry ∈ buffered, telemetry.id = id → telemetry.deleted = false

/-- The name is a field of the prototype, or one that every object inherits. -/
def inherits (record : TaskRecord) (name : String) : Bool :=
  match Dict.get? record.fields name with
  | some j => truthyJson j
  | none => name = accessor || name ∈ methods

/-- No event has an id that is listed or inherited. -/
def Idle (record : TaskRecord) : Prop :=
  ∀ telemetry ∈ buffered, (telemetry.id ∈ records.map Message.id → telemetry.id ∈ deletedTaskIds) ∧
    inherits record telemetry.id = false

/-- No event goes through an inherited name. -/
def Harmless : Prop :=
  match protoRecord records deletedTaskIds with
  | none => NoneInherited records buffered deletedTaskIds
  | some record => Idle records buffered deletedTaskIds record

end Statement

/-! ## One event -/

namespace Lemmas

variable {deletedTaskIds : Finset String} {tasks : TaskMap} {telemetry : TaskTelemetry}

theorem get?_own_of_unknown {id : String} (h : known tasks id = false) :
    Dict.get? tasks.own id = none := by
  cases hown : Dict.get? tasks.own id with
  | none => rfl
  | some task =>
    rw [known, lookup, Object.get_of_own hown] at h
    cases h

/-- A plain object knows its own ids, and the names that every object inherits. -/
theorem known_of_plain (h : tasks.Plain) (id : String) :
    known tasks id = true ↔ (Dict.get? tasks.own id).isSome ∨ id = accessor ∨ id ∈ methods := by
  cases hown : Dict.get? tasks.own id with
  | some task =>
    rw [known, lookup, Object.get_of_own hown]
    exact iff_of_true rfl (Or.inl rfl)
  | none =>
    rw [known, lookup, Object.get_of_plain h hown]
    by_cases haccessor : id = accessor
    · rw [if_pos haccessor]
      exact iff_of_true rfl (Or.inr (Or.inl haccessor))
    · rw [if_neg haccessor]
      by_cases hmethod : id ∈ methods
      · rw [if_pos hmethod]
        exact iff_of_true rfl (Or.inr (Or.inr hmethod))
      · rw [if_neg hmethod]
        exact iff_of_false (fun h => (by cases h)) (by simp [haccessor, hmethod])

/-- A plain object without the deleted ids. -/
structure Stable (deletedTaskIds : Finset String) (tasks : TaskMap) : Prop where
  plain : tasks.Plain
  absent : ∀ id ∈ deletedTaskIds, Dict.get? tasks.own id = none

/-- The event does not set the prototype. -/
def SparesPrototype (deletedTaskIds : Finset String) (telemetry : TaskTelemetry) : Prop :=
  telemetry.id = accessor → telemetry.deleted = true ∨ telemetry.id ∈ deletedTaskIds

/-- On a plain object the two paths do the same with an event. -/
theorem applyBuffered_eq_mergeKnownTask (h : Stable deletedTaskIds tasks)
    (hspare : SparesPrototype deletedTaskIds telemetry) :
    applyBuffered deletedTaskIds tasks telemetry
      = mergeKnownTask tasks telemetry deletedTaskIds := by
  have hcopy : tasks.copy = tasks := Object.copy_eq_self h.plain.proto
  unfold applyBuffered mergeKnownTask
  by_cases hdeleted : telemetry.deleted = true
  · -- the tombstone of an unknown task has nothing to delete
    rw [if_pos hdeleted, if_pos (Or.inl hdeleted), hcopy]
    split
    · rfl
    · next hunknown =>
      exact Object.delete_eq_self (get?_own_of_unknown (Bool.eq_false_iff.mpr hunknown))
  · rw [if_neg hdeleted]
    by_cases hmem : telemetry.id ∈ deletedTaskIds
    · rw [if_neg (fun hknown => hknown.2 hmem), if_pos (Or.inr hmem), hcopy,
        Object.delete_eq_self (h.absent _ hmem), ite_self]
    · have hname : telemetry.id ≠ accessor := fun heq => (hspare heq).elim hdeleted hmem
      rw [if_neg (not_or.mpr ⟨hdeleted, hmem⟩)]
      by_cases hknown : known tasks telemetry.id = true
      · rw [if_pos ⟨hknown, hmem⟩, if_pos hknown,
          Object.copyWith_eq_assign h.plain.proto hname]
      · rw [if_neg (fun hboth => hknown hboth.1), if_neg hknown]

/-- The tasks after an event: a live one can add the name of a method. -/
theorem isSome_own_applyBuffered (h : Stable deletedTaskIds tasks)
    (hspare : SparesPrototype deletedTaskIds telemetry) (id : String) :
    (Dict.get? (applyBuffered deletedTaskIds tasks telemetry).own id).isSome ↔
      if telemetry.id = id then telemetry.deleted = false ∧
        ((Dict.get? tasks.own id).isSome ∨ id ∈ methods ∧ id ∉ deletedTaskIds)
      else (Dict.get? tasks.own id).isSome := by
  unfold applyBuffered
  by_cases hdeleted : telemetry.deleted = true
  · rw [if_pos hdeleted, Object.delete, Dict.get?_pop]
    by_cases hid : telemetry.id = id
    · rw [if_pos hid, if_pos hid.symm, hdeleted]
      simp
    · rw [if_neg hid, if_neg (Ne.symm hid)]
  · rw [if_neg hdeleted]
    by_cases hboth : known tasks telemetry.id = true ∧ telemetry.id ∉ deletedTaskIds
    · obtain ⟨hknown, hmem⟩ := hboth
      have hname : telemetry.id ≠ accessor := fun heq => (hspare heq).elim hdeleted hmem
      have hown := (known_of_plain h.plain telemetry.id).mp hknown
      rw [if_pos ⟨hknown, hmem⟩, Object.assign_of_ne hname, Dict.get?_set]
      by_cases hid : telemetry.id = id
      · subst hid
        rw [if_pos rfl, if_pos rfl]
        refine iff_of_true rfl ⟨Bool.eq_false_iff.mpr hdeleted, ?_⟩
        exact hown.imp_right fun hinherited => ⟨hinherited.resolve_left hname, hmem⟩
      · rw [if_neg hid, if_neg (Ne.symm hid)]
    · rw [if_neg hboth]
      by_cases hid : telemetry.id = id
      · subst hid
        rw [if_pos rfl]
        refine ⟨fun hsome => ⟨Bool.eq_false_iff.mpr hdeleted, Or.inl hsome⟩, fun hlive => ?_⟩
        refine hlive.2.resolve_right fun hmethod => hboth ⟨?_, hmethod.2⟩
        exact (known_of_plain h.plain _).mpr (Or.inr (Or.inr hmethod.1))
      · rw [if_neg hid]

theorem stable_applyBuffered (h : Stable deletedTaskIds tasks)
    (hspare : SparesPrototype deletedTaskIds telemetry) :
    Stable deletedTaskIds (applyBuffered deletedTaskIds tasks telemetry) where
  plain := by
    unfold applyBuffered
    split
    · exact Object.plain_delete h.plain
    · next hdeleted =>
      split
      · next hboth =>
        exact Object.plain_assign h.plain fun heq => (hspare heq).elim hdeleted hboth.2
      · exact h.plain
  absent id hid := by
    rw [← Option.not_isSome_iff_eq_none, isSome_own_applyBuffered h hspare, h.absent id hid]
    split
    · simp [hid]
    · simp

/-! ## The buffered events -/

section Runs

variable {buffered : List TaskTelemetry}

theorem stable_foldl (h : Stable deletedTaskIds tasks)
    (hspare : ∀ telemetry ∈ buffered, SparesPrototype deletedTaskIds telemetry) :
    Stable deletedTaskIds (buffered.foldl (applyBuffered deletedTaskIds) tasks) := by
  refine List.foldlRecOn (motive := Stable deletedTaskIds) buffered _ h ?_
  exact fun tasks h telemetry hmem => stable_applyBuffered h (hspare telemetry hmem)

theorem foldl_applyBuffered_eq (h : Stable deletedTaskIds tasks)
    (hspare : ∀ telemetry ∈ buffered, SparesPrototype deletedTaskIds telemetry) :
    buffered.foldl (applyBuffered deletedTaskIds) tasks =
      buffered.foldl (fun tasks telemetry => mergeKnownTask tasks telemetry deletedTaskIds) tasks := by
  induction buffered generalizing tasks with
  | nil => rfl
  | cons telemetry buffered ih =>
    have hhead := hspare telemetry List.mem_cons_self
    rw [List.foldl_cons, List.foldl_cons, ← applyBuffered_eq_mergeKnownTask h hhead]
    exact ih (stable_applyBuffered h hhead) fun later hmem => hspare later (List.mem_cons_of_mem _ hmem)

theorem alive_concat {id : String} (telemetry : TaskTelemetry) :
    Alive (buffered ++ [telemetry]) id ↔
      if telemetry.id = id then telemetry.deleted = false else Alive buffered id := by
  constructor
  · rintro ⟨before, live, after, hsplit, hid, hlive, hafter⟩
    rcases List.eq_nil_or_concat' after with rfl | ⟨after, last, rfl⟩
    · obtain ⟨-, hlast⟩ := List.append_inj' hsplit rfl
      cases hlast
      rw [if_pos hid]
      exact hlive
    · rw [← List.cons_append, ← List.append_assoc] at hsplit
      obtain ⟨rfl, hlast⟩ := List.append_inj' hsplit rfl
      cases hlast
      split
      · next heq => exact hafter _ (List.mem_append_right _ List.mem_cons_self) heq
      · exact ⟨before, live, after, rfl, hid, hlive,
          fun later hmem => hafter later (List.mem_append_left _ hmem)⟩
  · intro h
    split at h
    · next heq => exact ⟨buffered, telemetry, [], rfl, heq, h, fun later hmem => (by cases hmem)⟩
    · next hne =>
      obtain ⟨before, live, after, rfl, hid, hlive, hafter⟩ := h
      refine ⟨before, live, after ++ [telemetry], by simp, hid, hlive, ?_⟩
      intro later hmem heq
      rcases List.mem_append.mp hmem with hmem | hmem
      · exact hafter later hmem heq
      · exact absurd (List.mem_singleton.mp hmem ▸ heq) hne

/-- A task stays until a tombstone, and the last live event of a method's name makes one. -/
theorem isSome_own_foldl (h : Stable deletedTaskIds tasks)
    (hspare : ∀ telemetry ∈ buffered, SparesPrototype deletedTaskIds telemetry) (id : String) :
    (Dict.get? (buffered.foldl (applyBuffered deletedTaskIds) tasks).own id).isSome ↔
      ((Dict.get? tasks.own id).isSome ∧
        ∀ telemetry ∈ buffered, telemetry.id = id → telemetry.deleted = false) ∨
      id ∈ methods ∧ id ∉ deletedTaskIds ∧ Alive buffered id := by
  induction buffered using List.reverseRecOn with
  | nil =>
    have hdead : ¬ Alive [] id := fun ⟨before, _, after, hsplit, _⟩ => by
      cases before <;> cases hsplit
    simp [hdead]
  | append_singleton buffered telemetry ih =>
    have hbuffered : ∀ telemetry ∈ buffered, SparesPrototype deletedTaskIds telemetry :=
      fun earlier hmem => hspare earlier (List.mem_append_left _ hmem)
    have hlast := hspare telemetry (List.mem_append_right _ List.mem_cons_self)
    rw [List.foldl_append, List.foldl_cons, List.foldl_nil,
      isSome_own_applyBuffered (stable_foldl h hbuffered) hlast, alive_concat, ih hbuffered,
      List.forall_mem_append, List.forall_mem_singleton]
    by_cases hid : telemetry.id = id
    · rw [if_pos hid, if_pos hid]
      grind
    · rw [if_neg hid, if_neg hid]
      grind

end Runs

/-! ## The records -/

section Records

variable {records : List TaskRecord}

theorem get?_copy (record : Message) (name : String) :
    Dict.get? record.copy name = (Dict.get? record.fields name).map .json := by
  unfold Message.copy Dict.get? Table.get?
  rw [List.find?_map, Option.map_map, Option.map_map]
  rfl

theorem protoRecord_concat (record : TaskRecord) :
    protoRecord (records ++ [record]) deletedTaskIds =
      if record.id ∉ deletedTaskIds ∧ record.id = accessor then some record
      else protoRecord records deletedTaskIds := by
  unfold protoRecord
  rw [List.filter_append, List.reverse_append, List.find?_append]
  by_cases hmem : record.id ∈ deletedTaskIds
  · rw [List.filter_cons_of_neg (by simp [hmem]), if_neg (fun h => h.1 hmem)]
    rfl
  · rw [List.filter_cons_of_pos (by simp [hmem]), List.filter_nil, List.reverse_singleton,
      List.find?_singleton]
    by_cases hid : record.id = accessor
    · rw [if_pos (decide_eq_true hid), if_pos ⟨hmem, hid⟩]
      rfl
    · rw [if_neg (by simp [hid]), if_neg (fun h => hid h.2)]
      rfl

/-- The snapshot of the records: `proto` is set by a record, and the other ids are its own. -/
structure Listed (deletedTaskIds : Finset String) (records : List TaskRecord) (tasks : TaskMap) :
    Prop where
  proto : tasks.proto = (protoRecord records deletedTaskIds).map Message.copy
  accessor : Dict.get? tasks.own accessor = none
  own : ∀ id, (Dict.get? tasks.own id).isSome ↔
    id ∈ records.map Message.id ∧ id ∉ deletedTaskIds ∧ id ≠ PlainObject.accessor

/-- An assignment to `__proto__` finds no such property, neither in the object nor in its prototype. -/
theorem assign_accessor (h : Listed deletedTaskIds records tasks) (fields : Fields) :
    tasks.assign Dict.get? accessor fields = { tasks with proto := some fields } := by
  have hproto : (tasks.proto.bind (Dict.get? · accessor)).isNone = true := by
    rw [h.proto]
    cases protoRecord records deletedTaskIds with
    | none => rfl
    | some record => simp [get?_copy, record.plain]
  rw [Object.assign, if_pos ⟨rfl, h.accessor, hproto⟩]

theorem listed_foldl (deletedTaskIds : Finset String) (records : List TaskRecord) :
    Listed deletedTaskIds records (records.foldl (addRecord deletedTaskIds) Object.empty) := by
  induction records using List.reverseRecOn with
  | nil => exact ⟨rfl, rfl, fun id => by simp [Object.empty]⟩
  | append_singleton records record ih =>
    rw [List.foldl_append, List.foldl_cons, List.foldl_nil]
    generalize records.foldl (addRecord deletedTaskIds) Object.empty = tasks at ih
    unfold addRecord
    by_cases hmem : record.id ∈ deletedTaskIds
    · rw [if_pos hmem]
      refine ⟨?_, ih.accessor, fun id => ?_⟩
      · rw [protoRecord_concat, if_neg (fun h => h.1 hmem)]
        exact ih.proto
      · rw [ih.own, List.map_append, List.map_singleton, List.mem_append, List.mem_singleton]
        grind
    · rw [if_neg hmem]
      by_cases hid : record.id = accessor
      · rw [hid, assign_accessor ih]
        refine ⟨?_, ih.accessor, fun id => ?_⟩
        · rw [protoRecord_concat, if_pos ⟨hmem, hid⟩]
          rfl
        · rw [ih.own, List.map_append, List.map_singleton, List.mem_append, List.mem_singleton]
          grind
      · rw [Object.assign_of_ne hid]
        refine ⟨?_, ?_, fun id => ?_⟩
        · rw [protoRecord_concat, if_neg (fun h => hid h.2)]
          exact ih.proto
        · rw [Dict.get?_set, if_neg (Ne.symm hid)]
          exact ih.accessor
        · rw [Dict.get?_set, List.map_append, List.map_singleton, List.mem_append,
            List.mem_singleton]
          split
          · next heq =>
            subst heq
            exact iff_of_true rfl ⟨Or.inr rfl, hmem, hid⟩
          · next hne =>
            rw [ih.own, or_iff_left hne]

/-- What a snapshot knows whose prototype is a record. -/
theorem known_listed (h : Listed deletedTaskIds records tasks) {record : TaskRecord}
    (hproto : protoRecord records deletedTaskIds = some record) (id : String) :
    known tasks id = false ↔
      (id ∈ records.map Message.id → id ∈ deletedTaskIds) ∧ inherits record id = false := by
  have hown := h.own id
  cases hget : Dict.get? tasks.own id with
  | some task =>
    rw [hget] at hown
    obtain ⟨hlisted, hmem, -⟩ := hown.mp rfl
    rw [known, lookup, Object.get_of_own hget]
    exact iff_of_false (fun h => (by cases h)) fun hidle => hmem (hidle.1 hlisted)
  | none =>
    have hinherits : known tasks id = inherits record id := by
      rw [known, lookup, Object.get, hget, h.proto, hproto, Option.map_some, Option.bind_some,
        get?_copy]
      unfold inherits
      cases hfield : Dict.get? record.fields id with
      | some j => rfl
      | none =>
        dsimp only [Option.map_none]
        rw [Object.getBuiltin, h.proto, hproto]
        by_cases haccessor : id = accessor
        · rw [if_pos haccessor]
          simp [haccessor, Found.truthy]
        · rw [if_neg haccessor]
          by_cases hmethod : id ∈ methods <;> simp [haccessor, hmethod, Found.truthy]
    rw [hinherits]
    refine ⟨fun hfalse => ⟨fun hlisted => ?_, hfalse⟩, And.right⟩
    -- the prototype itself is inherited
    have hname : id ≠ accessor := fun heq => by
      rw [heq, inherits, record.plain] at hfalse
      cases hfalse
    by_contra hmem
    rw [hget] at hown
    cases hown.mpr ⟨hlisted, hmem, hname⟩

end Records

/-! ## The prototype -/

section Prototype

variable {buffered : List TaskTelemetry}

/-- The snapshot never gets `Object.prototype` back. -/
theorem proto_applyBuffered (h : tasks.proto.isSome) (telemetry : TaskTelemetry) :
    (applyBuffered deletedTaskIds tasks telemetry).proto.isSome := by
  unfold applyBuffered
  split
  · exact h
  · split
    · exact Object.proto_assign_isSome h
    · exact h

theorem proto_foldl_applyBuffered (h : tasks.proto.isSome) :
    (buffered.foldl (applyBuffered deletedTaskIds) tasks).proto.isSome := by
  refine List.foldlRecOn (motive := fun tasks : TaskMap => tasks.proto.isSome) buffered _ h ?_
  exact fun tasks h telemetry _ => proto_applyBuffered h telemetry

/-- The live path never sets a prototype. -/
theorem proto_mergeKnownTask (h : tasks.proto = none) (telemetry : TaskTelemetry) :
    (mergeKnownTask tasks telemetry deletedTaskIds).proto = none := by
  unfold mergeKnownTask
  split <;> split
  · rfl
  · exact h
  · rfl
  · exact h

theorem proto_foldl_mergeKnownTask (h : tasks.proto = none) :
    (buffered.foldl (fun tasks telemetry => mergeKnownTask tasks telemetry deletedTaskIds)
      tasks).proto = none := by
  refine List.foldlRecOn (motive := fun tasks : TaskMap => tasks.proto = none) buffered _ h ?_
  exact fun tasks h telemetry _ => proto_mergeKnownTask h telemetry

theorem applyBuffered_of_unknown (h : known tasks telemetry.id = false) :
    applyBuffered deletedTaskIds tasks telemetry = tasks := by
  unfold applyBuffered
  split
  · exact Object.delete_eq_self (get?_own_of_unknown h)
  · rw [if_neg (fun hboth => by rw [h] at hboth; cases hboth.1)]

theorem mergeKnownTask_of_unknown (h : known tasks telemetry.id = false) :
    mergeKnownTask tasks telemetry deletedTaskIds = tasks := by
  unfold mergeKnownTask
  rw [h]
  exact ite_self _

theorem proto_mergeKnownTask_of_known (h : known tasks telemetry.id = true) :
    (mergeKnownTask tasks telemetry deletedTaskIds).proto = none := by
  unfold mergeKnownTask
  rw [h]
  split <;> rfl

/-- With a prototype of its own the two paths agree only on events that do nothing. -/
theorem foldl_eq_iff_of_proto (h : tasks.proto.isSome) :
    buffered.foldl (applyBuffered deletedTaskIds) tasks =
        buffered.foldl (fun tasks telemetry => mergeKnownTask tasks telemetry deletedTaskIds) tasks ↔
      ∀ telemetry ∈ buffered, known tasks telemetry.id = false := by
  induction buffered with
  | nil => simp
  | cons telemetry buffered ih =>
    rw [List.foldl_cons, List.foldl_cons, List.forall_mem_cons]
    cases hknown : known tasks telemetry.id with
    | false =>
      rw [applyBuffered_of_unknown hknown, mergeKnownTask_of_unknown hknown, ih]
      exact (and_iff_right rfl).symm
    | true =>
      refine iff_of_false (fun heq => ?_) (fun hboth => (by cases hboth.1))
      have hsome : (buffered.foldl (applyBuffered deletedTaskIds)
          (applyBuffered deletedTaskIds tasks telemetry)).proto.isSome :=
        proto_foldl_applyBuffered (proto_applyBuffered h telemetry)
      rw [heq, proto_foldl_mergeKnownTask (proto_mergeKnownTask_of_known hknown)] at hsome
      cases hsome

theorem foldl_applyBuffered_of_unknown
    (h : ∀ telemetry ∈ buffered, known tasks telemetry.id = false) :
    buffered.foldl (applyBuffered deletedTaskIds) tasks = tasks := by
  induction buffered with
  | nil => rfl
  | cons telemetry buffered ih =>
    obtain ⟨hhead, htail⟩ := List.forall_mem_cons.mp h
    rw [List.foldl_cons, applyBuffered_of_unknown hhead, ih htail]

/-- A live event of `__proto__` sets the prototype of a plain object. -/
theorem proto_of_accessor (h : tasks.Plain) (hid : telemetry.id = accessor)
    (hlive : telemetry.deleted = false) (hmem : telemetry.id ∉ deletedTaskIds) :
    (applyBuffered deletedTaskIds tasks telemetry).proto.isSome := by
  have hknown : known tasks telemetry.id = true :=
    (known_of_plain h _).mpr (Or.inr (Or.inl hid))
  unfold applyBuffered
  rw [if_neg (by simp [hlive]), if_pos ⟨hknown, hmem⟩, hid, Object.assign_accessor_of_plain h]
  rfl

/-- The first event that sets the prototype is met on a plain object. -/
theorem proto_of_not_spares (h : Stable deletedTaskIds tasks)
    (hspare : ¬ ∀ telemetry ∈ buffered, SparesPrototype deletedTaskIds telemetry) :
    (buffered.foldl (applyBuffered deletedTaskIds) tasks).proto.isSome := by
  induction buffered generalizing tasks with
  | nil => exact absurd (fun telemetry hmem => (by cases hmem)) hspare
  | cons telemetry buffered ih =>
    rw [List.foldl_cons]
    by_cases hhead : SparesPrototype deletedTaskIds telemetry
    · refine ih (stable_applyBuffered h hhead) fun htail => hspare ?_
      exact List.forall_mem_cons.mpr ⟨hhead, htail⟩
    · obtain ⟨hid, hnot⟩ := Classical.not_imp.mp hhead
      obtain ⟨hlive, hmem⟩ := not_or.mp hnot
      exact proto_foldl_applyBuffered
        (proto_of_accessor h.plain hid (Bool.eq_false_iff.mpr hlive) hmem)

end Prototype

/-! ## The snapshot -/

section Snapshot

variable {records : List TaskRecord} {buffered : List TaskTelemetry}

theorem stable_records (hproto : protoRecord records deletedTaskIds = none) :
    Stable deletedTaskIds (records.foldl (addRecord deletedTaskIds) Object.empty) where
  plain :=
    { proto := by
        rw [(listed_foldl deletedTaskIds records).proto, hproto]
        rfl
      own := (listed_foldl deletedTaskIds records).accessor }
  absent id hid := by
    rw [← Option.not_isSome_iff_eq_none, (listed_foldl deletedTaskIds records).own]
    exact fun h => h.2.1 hid

theorem onlyKnown_of_noneInherited (hproto : protoRecord records deletedTaskIds = none)
    (h : NoneInherited records buffered deletedTaskIds) :
    OnlyKnown records buffered deletedTaskIds where
  folds := foldl_applyBuffered_eq (stable_records hproto) h.accessor
  ids id hsome := by
    have hown := (isSome_own_foldl (stable_records hproto) h.accessor id).mp hsome
    rcases hown with ⟨hrecord, hlive⟩ | ⟨hmethod, hmem, halive⟩
    · obtain ⟨hlisted, hmem, -⟩ := ((listed_foldl deletedTaskIds records).own id).mp hrecord
      exact ⟨hlisted, hmem, hlive⟩
    · obtain ⟨hlisted, hlive⟩ := h.methods id hmethod hmem halive
      exact ⟨hlisted, hmem, hlive⟩

theorem noneInherited_of_onlyKnown (hproto : protoRecord records deletedTaskIds = none)
    (h : OnlyKnown records buffered deletedTaskIds) :
    NoneInherited records buffered deletedTaskIds := by
  have hspare : ∀ telemetry ∈ buffered, SparesPrototype deletedTaskIds telemetry := by
    by_contra hnot
    -- only the buffered path can set the prototype
    have hsome : (reconcileTaskSnapshot records buffered deletedTaskIds).proto.isSome :=
      proto_of_not_spares (stable_records hproto) hnot
    have hnone : (buffered.foldl
        (fun tasks telemetry => mergeKnownTask tasks telemetry deletedTaskIds)
        (reconcileTaskSnapshot records [] deletedTaskIds)).proto = none :=
      proto_foldl_mergeKnownTask (stable_records hproto).plain.proto
    rw [h.folds, hnone] at hsome
    cases hsome
  refine ⟨hspare, fun id hmethod hmem halive => ?_⟩
  have hsome := (isSome_own_foldl (stable_records hproto) hspare id).mpr
    (Or.inr ⟨hmethod, hmem, halive⟩)
  obtain ⟨hlisted, -, hlive⟩ := h.ids id hsome
  exact ⟨hlisted, hlive⟩

/-- A snapshot whose prototype is a record is right only if nothing happens. -/
theorem onlyKnown_iff_idle {record : TaskRecord}
    (hproto : protoRecord records deletedTaskIds = some record) :
    OnlyKnown records buffered deletedTaskIds ↔ Idle records buffered deletedTaskIds record := by
  have hlisted := listed_foldl deletedTaskIds records
  have hsome : (records.foldl (addRecord deletedTaskIds) Object.empty).proto.isSome := by
    rw [hlisted.proto, hproto]
    rfl
  have hidle : Idle records buffered deletedTaskIds record ↔ ∀ telemetry ∈ buffered,
      known (records.foldl (addRecord deletedTaskIds) Object.empty) telemetry.id = false :=
    forall₂_congr fun telemetry _ => (known_listed hlisted hproto telemetry.id).symm
  rw [hidle]
  refine ⟨fun h => (foldl_eq_iff_of_proto hsome).mp h.folds, fun h => ⟨?_, fun id hown => ?_⟩⟩
  · exact (foldl_eq_iff_of_proto hsome).mpr h
  · rw [reconcileTaskSnapshot, foldl_applyBuffered_of_unknown h, hlisted.own] at hown
    refine ⟨hown.1, hown.2.1, fun telemetry hmem hid => ?_⟩
    -- an event of a listed task would do something
    have hunknown := (known_listed hlisted hproto telemetry.id).mp (h telemetry hmem)
    rw [hid] at hunknown
    exact absurd (hunknown.1 hown.1) hown.2.1

end Snapshot

end Lemmas

open Lemmas in
/-- The snapshot is the fold of the live merges and invents no task, exactly if no event goes through
an inherited name. -/
theorem onlyKnown_iff (records : List TaskRecord) (buffered : List TaskTelemetry)
    (deletedTaskIds : Finset String) :
    OnlyKnown records buffered deletedTaskIds ↔ Harmless records buffered deletedTaskIds := by
  unfold Harmless
  cases hproto : protoRecord records deletedTaskIds with
  | none => exact ⟨noneInherited_of_onlyKnown hproto, onlyKnown_of_noneInherited hproto⟩
  | some record => exact onlyKnown_iff_idle hproto

/-- An event of a task with the id `constructor`. -/
def running : TaskTelemetry where
  id := "constructor"
  fields := ⟨[("id", .str "constructor"), ("state", .str "RUNNING")], by decide⟩
  hasId := rfl
  plain := rfl

/-- The event makes a task that no record lists. -/
theorem invented_constructor : ¬ OnlyKnown [] [running] ∅ ∧
    (reconcileTaskSnapshot [] [running] ∅).own.rows.map Prod.fst = ["constructor"] := by
  have hrows : (reconcileTaskSnapshot [] [running] ∅).own.rows.map Prod.fst = ["constructor"] := by
    decide +kernel
  refine ⟨fun h => ?_, hrows⟩
  have hsome : (Dict.get? (reconcileTaskSnapshot [] [running] ∅).own "constructor").isSome := by
    decide +kernel
  exact absurd (h.ids "constructor" hsome).1 (by decide)

end KnownTasks

end Dashboard
