import KerSorMonitor.Scripts.LegacyLaws

/-!
# Initialising a Feishu table (`run_init_feishu` in `scripts/local-monitor.py`)

`init-feishu` looks which of the tasks have a record, reuses blank records for the others and creates
the rest, in chunks of 200. It lists the records of the table once for each question, and the command
returns at most the 200 that it asks for.

Results:
1. `runInit_written`: what a run leaves in the table.
2. `created_once_iff`: for which tables and snapshots each task has its one record.
-/

namespace InitFeishu

open Flotilla Keyed Scripts

variable (py : Python)

/-! ## The table -/

/-- A field of the table; `options` are the names of the options of a select field. -/
structure Field where
  name : String
  type : String
  options : List String
  deriving DecidableEq, Repr

/-- What a record has under each name. -/
abbrev Record := String → Json

/-- A table of the service. Records are never removed here: the id of a record is its place. -/
structure Base where
  fields : List Field
  records : List Record
  /-- A record has nothing outside the fields. -/
  outside : ∀ r ∈ records, ∀ name, name ∉ fields.map Field.name → r name = .null

/-- `FEISHU_ROW_FIELDS`. -/
def feishuRowFields : List String :=
  ["Task ID", "Task Name", "Status", "Round", "Candidates", "Speedup", "Latency (ms)", "MFU", "Updated",
    "Experiment", "Engine", "Protocol", "GPU", "Family", "Paper Flag", "Paper Caveat", "Harvest Ready"]

/-- `FEISHU_STATUS_OPTION_ORDER`. -/
def feishuStatusOptionOrder : List String :=
  ["no_workspace", "pending", "queued", "starting", "running", "drafting", "planning", "implementing",
    "profiling", "phase1", "phase1_done", "phase1_validated", "phase1_complete", "phase2",
    "phase2_iter1_done", "phase2_iter1_complete", "phase2_iter2_done", "phase2_iter2_complete",
    "phase2_iter3_done", "phase2_iter3_complete", "phase2_iteration2_complete", "phase2_complete",
    "phase3", "phase3_iter1_done", "phase3_iter1_complete", "phase3_done",
    "phase3_iteration2_complete", "phase3_iteration3_complete", "phase3_complete",
    "solution_validated", "promoted", "complete", "cancelled", "rejected", "abandoned", "failed",
    "error", "crashed", "unknown", "legacy_queued", "legacy_assigned", "legacy_running",
    "legacy_stale", "legacy_done", "legacy_unknown", "smoke_ready", "smoke_failed"]

/-- `FEISHU_INIT_FIELD_DEFINITIONS`, one for each of the row fields. -/
def feishuInitFieldDefinitions : List Field :=
  [⟨"Task ID", "text", []⟩, ⟨"Task Name", "text", []⟩, ⟨"Status", "select", feishuStatusOptionOrder⟩,
    ⟨"Round", "number", []⟩, ⟨"Candidates", "number", []⟩, ⟨"Speedup", "number", []⟩,
    ⟨"Latency (ms)", "number", []⟩, ⟨"MFU", "number", []⟩, ⟨"Updated", "datetime", []⟩,
    ⟨"Experiment", "text", []⟩, ⟨"Engine", "text", []⟩, ⟨"Protocol", "text", []⟩, ⟨"GPU", "text", []⟩,
    ⟨"Family", "text", []⟩, ⟨"Paper Flag", "text", []⟩, ⟨"Paper Caveat", "text", []⟩,
    ⟨"Harvest Ready", "checkbox", []⟩]

/-- A row of `build_feishu_rows`: the id of the task, and what
`normalize_feishu_payload_value` makes of its other values. -/
structure Row where
  taskId : String
  values : Record

/-- What the payload of a row has under a name. -/
def Row.cell (row : Row) (name : String) : Json :=
  if name = "Task ID" then .str row.taskId else row.values name

/-- `build_feishu_rows`: the rows of the snapshot, or of one of its tasks. -/
def buildFeishuRows (tasks : List Row) (taskFilter : Option String) : List Row :=
  match taskFilter.filter (· ≠ "") with
  | none => tasks
  | some taskId => tasks.filter fun row => py.upper row.taskId = py.upper taskId

/-! ## Payloads -/

/-- What the record list returns: the values of the records, and their ids. -/
structure RecordPayload where
  rows : List (List Json)
  recordIds : List Nat

/-- The key of a text in the record map, if it has one. -/
def taskKey (text : String) : Option String :=
  if stripText py text = "" then none else some (py.upper (stripText py text))

/-- The loop of `record_id_map_from_payload`. -/
def addRecordId (mapping : Dict String Nat) (item : List Json × Nat) : Dict String Nat :=
  match item.1 with
  | [] => mapping
  | value :: _ =>
    match taskKey py value.pyStr with
    | none => mapping
    | some key => Dict.set mapping key item.2

/-- `record_id_map_from_payload`. -/
def recordIdMapFromPayload (payload : RecordPayload) : Dict String Nat :=
  (payload.rows.zip payload.recordIds).foldl (addRecordId py) Table.empty

/-- `value in (None, "", [])`. -/
def emptyValue : Json → Bool
  | .null => true
  | .str s => s = ""
  | .arr xs => xs.isEmpty
  | _ => false

/-- `blank_record_ids_from_payload`. -/
def blankRecordIdsFromPayload (payload : RecordPayload) : List Nat :=
  ((payload.rows.zip payload.recordIds).filter fun item => item.1.all emptyValue).map Prod.snd

/-- `chunked_rows`. -/
def chunkedRows (rows : List Row) (size : Nat) : List (List Row) :=
  (List.range ((rows.length + size - 1) / size)).map fun i => (rows.drop (i * size)).take size

/-- `missing_feishu_init_field_definitions`. -/
def missingFeishuInitFieldDefinitions (fields : List Field) : List Field :=
  feishuInitFieldDefinitions.filter fun definition => definition.name ∉ fields.map Field.name

/-- `missing_feishu_status_options`. -/
def missingFeishuStatusOptions (fields : List Field) : List String :=
  match fields.reverse.find? fun field => field.name = "Status" with
  | none => []
  | some field =>
    if field.type ≠ "select" then []
    else feishuStatusOptionOrder.filter fun status => status ∉ field.options

/-! ## Commands -/

/-- A record is updated or created for a task. -/
inductive Write
  | updated (recordId : Nat) (taskId : String)
  | created (taskId : String)
  deriving DecidableEq, Repr

def Write.taskId : Write → String
  | .updated _ taskId => taskId
  | .created taskId => taskId

/-- The table, how many commands have been run, and the records that they wrote. -/
structure Session where
  base : Base
  calls : Nat
  log : List Write

/-- A run ends early with an exit code. -/
abbrev InitM := StateT Session (Except (Int × Session))

/-- `--limit 200`. -/
def pageLimit : Nat := 200

/-- The values of a record that are listed: of all fields, or of one. -/
def Base.values (b : Base) (fieldId : Option String) (r : Record) : List Json :=
  match fieldId with
  | some name => [r name]
  | none => b.fields.map fun field => r field.name

/-- The record list: the first records. -/
def Base.recordList (b : Base) (fieldId : Option String) : RecordPayload where
  rows := (b.records.take pageLimit).map (b.values fieldId)
  recordIds := List.range (b.records.take pageLimit).length

/-- A new field is empty in all records. Names are unique. -/
def Base.createField (b : Base) (field : Field) : Option Base :=
  if field.name ∈ b.fields.map Field.name then none
  else some
    { b with
      fields := b.fields ++ [field]
      outside := fun r hr name hname => b.outside r hr name fun hmem =>
        hname (by rw [List.map_append]; exact List.mem_append_left _ hmem) }

/-- New definitions of fields with the names that they had. -/
def Base.updateField (b : Base) (definition : Field) : Base :=
  { b with
    fields := b.fields.map fun field => if field.name = definition.name then definition else field
    outside := fun r hr name hname => b.outside r hr name fun hmem => by
      obtain ⟨field, hfield, rfl⟩ := List.mem_map.mp hmem
      refine hname (List.mem_map.mpr
        ⟨if field.name = definition.name then definition else field, List.mem_map_of_mem hfield, ?_⟩)
      split
      · next heq => exact heq.symm
      · rfl }

/-- The fields of a payload are fields of the table. -/
def Base.Accepts (b : Base) : Prop := ∀ name ∈ feishuRowFields, name ∈ b.fields.map Field.name

instance (b : Base) : Decidable b.Accepts :=
  inferInstanceAs (Decidable (∀ name ∈ feishuRowFields, name ∈ b.fields.map Field.name))

/-- A record with the values of a row. -/
def overwrite (r : Record) (row : Row) : Record := fun name =>
  if name ∈ feishuRowFields then row.cell name else r name

/-- A record that has the values of a row only. -/
def newRecord (row : Row) : Record := overwrite (fun _ => .null) row

theorem overwrite_outside {b : Base} (h : b.Accepts) {r : Record} {row : Row} {name : String}
    (hname : name ∉ b.fields.map Field.name) : overwrite r row name = r name :=
  if_neg fun hmem => hname (h name hmem)

/-- `record-upsert` with a record id. -/
def Base.upsert (b : Base) (recordId : Nat) (row : Row) : Option Base :=
  if h : b.Accepts ∧ recordId < b.records.length then
    some
      { b with
        records := b.records.set recordId (overwrite b.records[recordId] row)
        outside := fun r hr name hname => by
          rcases List.mem_or_eq_of_mem_set hr with hr | rfl
          · exact b.outside r hr name hname
          · rw [overwrite_outside h.1 hname]
            exact b.outside _ (List.getElem_mem h.2) name hname }
  else none

/-- `record-batch-create`. -/
def Base.batchCreate (b : Base) (rows : List Row) : Option Base :=
  if h : b.Accepts then
    some
      { b with
        records := b.records ++ rows.map newRecord
        outside := fun r hr name hname => by
          rcases List.mem_append.mp hr with hr | hr
          · exact b.outside r hr name hname
          · obtain ⟨row, -, rfl⟩ := List.mem_map.mp hr
            exact overwrite_outside h hname }
  else none

/-- `run_lark_json_command`: a command that fails ends the run. -/
def lark {α : Type} (fails : Nat → Bool) (f : Session → Option (α × Session)) : InitM α := fun s =>
  let s' := { s with calls := s.calls + 1 }
  if fails s.calls then .error (1, s')
  else
    match f s' with
    | some answer => .ok answer
    | none => .error (1, s')

variable (fails : Nat → Bool)

/-- `read_feishu_field_payload`: no table has more than 200 fields. -/
def readFields : InitM (List Field) := lark fails fun s => some (s.base.fields, s)

/-- `read_feishu_records_payload`. -/
def readRecords (fieldId : Option String) : InitM RecordPayload :=
  lark fails fun s => some (s.base.recordList fieldId, s)

def createField (field : Field) : InitM Unit :=
  lark fails fun s => (s.base.createField field).map fun b => ((), { s with base := b })

def updateField (definition : Field) : InitM Unit :=
  lark fails fun s => some ((), { s with base := s.base.updateField definition })

def upsertRecord (recordId : Nat) (row : Row) : InitM Unit :=
  lark fails fun s => (s.base.upsert recordId row).map fun b =>
    ((), { s with base := b, log := s.log ++ [.updated recordId row.taskId] })

def batchCreate (rows : List Row) : InitM Unit :=
  lark fails fun s => (s.base.batchCreate rows).map fun b =>
    ((), { s with base := b, log := s.log ++ rows.map fun row => .created row.taskId })

/-! ## The run -/

structure Plan where
  missingRows : List Row
  blankRecordIds : List Nat

def Plan.reusable (p : Plan) : Nat := min p.blankRecordIds.length p.missingRows.length

def Plan.rowsToCreate (p : Plan) : List Row := p.missingRows.drop p.reusable

/-- The plan of the two listings; without the first, no task has a record. -/
def initPlan (rows : List Row) (taskPayload : Option RecordPayload) (allPayload : RecordPayload) :
    Plan where
  missingRows := rows.filter fun row =>
    match taskPayload with
    | some payload =>
      (Dict.get? (recordIdMapFromPayload py payload) (py.upper row.taskId)).isNone
    | none => true
  blankRecordIds := blankRecordIdsFromPayload allPayload

/-- What `run_init_feishu` is given: whether the snapshot is reachable, whether the URL can be parsed
and the table resolved, and the result of `ensure_lark_cli_ready`. -/
structure InitArgs where
  reachable : Bool
  urlParsed : Bool
  tableResolved : Bool
  ready : Int
  taskFilter : Option String
  write : Bool

/-- The update of the field `Status`. -/
def addStatusOptions (statusOptions : List String) : InitM Unit :=
  if statusOptions = [] then pure ()
  else updateField fails ⟨"Status", "select", feishuStatusOptionOrder⟩

/-- The plan after fields have been created. -/
def planAgain (rows : List Row) (fieldsToCreate : List Field) (plan : Plan) : InitM Plan :=
  if fieldsToCreate = [] then pure plan
  else do
    let taskPayload ← readRecords fails (some "Task ID")
    let allPayload ← readRecords fails none
    pure (initPlan py rows (some taskPayload) allPayload)

/-- The part of `run_init_feishu` that writes. -/
def writeInit (rows : List Row) (fieldsToCreate : List Field) (statusOptions : List String)
    (plan : Plan) : InitM Int := do
  fieldsToCreate.forM (createField fails)
  addStatusOptions fails statusOptions
  let plan ← planAgain py fails rows fieldsToCreate plan
  ((plan.blankRecordIds.take plan.reusable).zip (plan.missingRows.take plan.reusable)).forM
    fun item => upsertRecord fails item.1 item.2
  (chunkedRows plan.rowsToCreate 200).forM (batchCreate fails)
  pure 0

/-- The first listing of the ids, if there is a field for them. -/
def readTaskRecords (fieldsToCreate : List Field) : InitM (Option RecordPayload) :=
  if fieldsToCreate = [] then do
    let payload ← readRecords fails (some "Task ID")
    pure (some payload)
  else pure none

/-- `run_init_feishu`, from the listings on. -/
def listAndInit (args : InitArgs) (rows : List Row) : InitM Int := do
  let fields ← readFields fails
  let fieldsToCreate := missingFeishuInitFieldDefinitions fields
  let statusOptions :=
    if "Status" ∈ fieldsToCreate.map Field.name then [] else missingFeishuStatusOptions fields
  let taskPayload ← readTaskRecords fails fieldsToCreate
  let allPayload ← readRecords fails none
  let plan := initPlan py rows taskPayload allPayload
  if !args.write then pure 0
  else if args.ready ≠ 0 then pure args.ready
  else writeInit py fails rows fieldsToCreate statusOptions plan

/-- `run_init_feishu`, up to what it prints. -/
def runInitFeishu (args : InitArgs) (tasks : List Row) : InitM Int :=
  if !args.reachable then pure 1
  else if !args.urlParsed then pure 2
  else if !args.tableResolved then pure 1
  else if (buildFeishuRows py tasks args.taskFilter).isEmpty then pure 0
  else listAndInit py fails args (buildFeishuRows py tasks args.taskFilter)

/-! ## What a run should do -/

/-- The key that the record map has for a record. -/
def mapKey (r : Record) : Option String := taskKey py (r "Task ID").pyStr

/-- The first page shows the task. -/
def Listed (records : List Record) (taskId : String) : Prop :=
  ∃ r ∈ records.take pageLimit, mapKey py r = some (py.upper taskId)

/-- The record has the id of the task. -/
structure IsOf (r : Record) (taskId : String) : Prop where
  given : emptyValue (r "Task ID") = false
  key : mapKey py r = taskKey py taskId
  some : taskKey py taskId ≠ none

def HasRecord (records : List Record) (taskId : String) : Prop := ∃ r ∈ records, IsOf py r taskId

/-- Nothing is in the record. -/
def Blank (r : Record) : Prop := ∀ name, emptyValue (r name) = true

/-- The session after a run, however it ended. -/
def finalSession {α : Type} : Except (Int × Session) (α × Session) → Session
  | .ok (_, s) => s
  | .error (_, s) => s

/-- After a run from `b` to `s'`, every task has a record, a task that had one has been given no
second, records that are not blank are as they were, and no further run writes a record. -/
structure CreatedOnce (tasks : List Row) (b : Base) (s' : Session) : Prop where
  everyTask : ∀ row ∈ tasks, HasRecord py s'.base.records row.taskId
  noSecond : ∀ w ∈ s'.log, ¬ HasRecord py b.records w.taskId
  kept : ∀ (i : Nat) r, b.records[i]? = some r → ¬ Blank r → s'.base.records[i]? = some r
  again : ∀ fails args, (finalSession (runInitFeishu py fails args tasks s')).log = s'.log

/-- The records and rows of the updates. -/
def Plan.pairs (p : Plan) : List (Nat × Row) :=
  (p.blankRecordIds.take p.reusable).zip (p.missingRows.take p.reusable)

/-- The records after the updates. -/
def fill (records : List Record) (pairs : List (Nat × Row)) : List Record :=
  pairs.foldl (fun records item => records.modify item.1 (overwrite · item.2)) records

/-- The plan of a table. -/
def planOf (rows : List Row) (b : Base) : Plan :=
  initPlan py rows (some (b.recordList (some "Task ID"))) (b.recordList none)

/-- The tasks that the first page does not show. -/
def missingTasks (tasks : List Row) (b : Base) : List Row :=
  tasks.filter fun row =>
    (Dict.get? (recordIdMapFromPayload py (b.recordList (some "Task ID"))) (py.upper row.taskId)).isNone

/-- The first page has room: each task is in a listed record that is not reused, or is one of the
missing tasks that go to blank records and to the rest of the page. -/
def Fits (tasks : List Row) (b : Base) : Prop :=
  ∀ row ∈ tasks,
    (∃ (i : Nat) (r : Record), i < pageLimit ∧ b.records[i]? = some r ∧
      mapKey py r = some (py.upper row.taskId) ∧
      i ∉ (blankRecordIdsFromPayload (b.recordList none)).take (missingTasks py tasks b).length) ∨
    ∃ row' ∈ (missingTasks py tasks b).take
        ((blankRecordIdsFromPayload (b.recordList none)).length + (pageLimit - b.records.length)),
      py.upper row'.taskId = py.upper row.taskId

/-- The ids are their own keys, the first page shows the tasks that have records, and it has room. -/
structure OnFirstPage (tasks : List Row) (b : Base) : Prop where
  trimmed : ∀ row ∈ tasks, taskKey py row.taskId = some (py.upper row.taskId)
  listed : ∀ row ∈ tasks, Listed py b.records row.taskId ↔ HasRecord py b.records row.taskId
  fits : Fits py tasks b

/-- `str.upper` goes by characters: it keeps white space at the ends, and leaves nothing out. -/
structure UpperLaws : Prop where
  strip : ∀ text, stripText py (py.upper text) = py.upper (stripText py text)
  empty : ∀ text, py.upper text = py.upper "" → text = ""

namespace InitFeishuLemmas

variable {py fails}

/-! ## Payloads -/

section
variable {b b' : Base} {rows : List Row} {row : Row}

theorem getElem?_page {l : List Record} {i : Nat} {r : Record} :
    (l.take pageLimit)[i]? = some r ↔ i < pageLimit ∧ l[i]? = some r := by
  rw [List.getElem?_take]
  split <;> simp_all

theorem mem_page {l : List Record} {r : Record} :
    r ∈ l.take pageLimit ↔ ∃ i, i < pageLimit ∧ l[i]? = some r := by
  rw [List.mem_iff_getElem?]
  exact exists_congr fun i => getElem?_page

theorem mem_recordList {fieldId : Option String} {values : List Json} {i : Nat} :
    (values, i) ∈ (b.recordList fieldId).rows.zip (b.recordList fieldId).recordIds ↔
      ∃ r, i < pageLimit ∧ b.records[i]? = some r ∧ values = b.values fieldId r := by
  rw [List.mem_iff_getElem?]
  simp only [List.getElem?_zip_eq_some]
  constructor
  · rintro ⟨j, hrow, hid⟩
    obtain ⟨r, hr, rfl⟩ := Option.map_eq_some_iff.mp ((List.getElem?_map ..).symm.trans hrow)
    have hj : j < (b.records.take pageLimit).length := List.getElem?_eq_some_iff.mp hr |>.1
    have hji : j = i := Option.some.inj ((List.getElem?_range hj).symm.trans hid)
    rw [hji] at hr
    exact ⟨r, (getElem?_page.mp hr).1, (getElem?_page.mp hr).2, rfl⟩
  · rintro ⟨r, hlt, hr, rfl⟩
    have hpage := getElem?_page.mpr ⟨hlt, hr⟩
    refine ⟨i, ?_, List.getElem?_range (List.getElem?_eq_some_iff.mp hpage).1⟩
    exact (List.getElem?_map ..).trans (by rw [hpage]; rfl)

/-- The record map has the keys of the first values. -/
theorem get?_recordIdMap {payload : RecordPayload} {key : String} :
    (Dict.get? (recordIdMapFromPayload py payload) key).isSome = true ↔
      ∃ item ∈ payload.rows.zip payload.recordIds, ∃ value ∈ item.1.head?,
        taskKey py value.pyStr = some key := by
  unfold recordIdMapFromPayload
  have hfold : ∀ (items : List (List Json × Nat)) (mapping : Dict String Nat),
      (Dict.get? (items.foldl (addRecordId py) mapping) key).isSome = true ↔
        (Dict.get? mapping key).isSome = true ∨ ∃ item ∈ items, ∃ value ∈ item.1.head?,
          taskKey py value.pyStr = some key := by
    intro items
    induction items with
    | nil => simp
    | cons item items ih =>
      intro mapping
      rw [List.foldl_cons, ih, List.exists_mem_cons_iff, ← or_assoc]
      refine or_congr_left ?_
      unfold addRecordId
      obtain ⟨values, i⟩ := item
      cases values with
      | nil => simp
      | cons value rest =>
        cases hkey : taskKey py value.pyStr with
        | none => simp [hkey]
        | some key' =>
          simp only [List.head?_cons, Option.mem_def, Option.some.injEq, exists_eq_left', hkey]
          rw [Dict.get?_set]
          split
          · next heq => simp [heq]
          · next hne => simp [Ne.symm hne]
  rw [hfold, Dict.get?_empty]
  simp

/-- The record map has the tasks that the first page shows. -/
theorem get?_recordIdMap_listed {taskId : String} :
    (Dict.get? (recordIdMapFromPayload py (b.recordList (some "Task ID"))) (py.upper taskId)).isSome
      = true ↔ Listed py b.records taskId := by
  rw [get?_recordIdMap]
  constructor
  · rintro ⟨⟨values, i⟩, hitem, value, hvalue, hkey⟩
    obtain ⟨r, hlt, hr, rfl⟩ := mem_recordList.mp hitem
    cases hvalue
    exact ⟨r, mem_page.mpr ⟨i, hlt, hr⟩, hkey⟩
  · rintro ⟨r, hr, hkey⟩
    obtain ⟨i, hlt, hr⟩ := mem_page.mp hr
    exact ⟨_, mem_recordList.mpr ⟨r, hlt, hr, rfl⟩, _, rfl, hkey⟩

theorem mem_missing : row ∈ (planOf py rows b).missingRows ↔
    row ∈ rows ∧ ¬ Listed py b.records row.taskId := by
  rw [← get?_recordIdMap_listed]
  unfold planOf initPlan
  simp [List.mem_filter, Option.isNone_iff_eq_none]

theorem all_values_iff {r : Record} (h : r ∈ b.records) :
    (b.values none r).all emptyValue = true ↔ Blank r := by
  rw [List.all_eq_true]
  constructor
  · intro hall name
    by_cases hname : name ∈ b.fields.map Field.name
    · obtain ⟨field, hfield, rfl⟩ := List.mem_map.mp hname
      exact hall _ (List.mem_map_of_mem hfield)
    · rw [b.outside r h name hname]
      rfl
  · intro hblank value hvalue
    obtain ⟨field, -, rfl⟩ := List.mem_map.mp hvalue
    exact hblank field.name

theorem mem_blank {i : Nat} : i ∈ (planOf py rows b).blankRecordIds ↔
    i < pageLimit ∧ ∃ r, b.records[i]? = some r ∧ Blank r := by
  unfold planOf initPlan blankRecordIdsFromPayload
  rw [List.mem_map]
  constructor
  · rintro ⟨⟨values, j⟩, hitem, rfl⟩
    obtain ⟨hitem, hall⟩ := List.mem_filter.mp hitem
    obtain ⟨r, hlt, hr, rfl⟩ := mem_recordList.mp hitem
    exact ⟨hlt, r, hr, (all_values_iff (List.mem_of_getElem? hr)).mp hall⟩
  · rintro ⟨hlt, r, hr, hblank⟩
    exact ⟨(b.values none r, i), List.mem_filter.mpr ⟨mem_recordList.mpr ⟨r, hlt, hr, rfl⟩,
      (all_values_iff (List.mem_of_getElem? hr)).mpr hblank⟩, rfl⟩

theorem nodup_blank : (planOf py rows b).blankRecordIds.Nodup := by
  have hsub : (planOf py rows b).blankRecordIds.Sublist (b.recordList none).recordIds := by
    have hids : ((b.recordList none).rows.zip (b.recordList none).recordIds).map Prod.snd
        = (b.recordList none).recordIds :=
      List.map_snd_zip (by simp [Base.recordList])
    rw [← hids]
    exact List.filter_sublist.map _
  exact List.nodup_range.sublist hsub

/-- The plan is one of the records: fields that are created later are empty. -/
theorem planOf_congr (h : b.records = b'.records) : planOf py rows b = planOf py rows b' := by
  have htask : b.recordList (some "Task ID") = b'.recordList (some "Task ID") := by
    unfold Base.recordList
    rw [h]
    rfl
  have hblank : blankRecordIdsFromPayload (b.recordList none)
      = blankRecordIdsFromPayload (b'.recordList none) := by
    have hone : ∀ b : Base, blankRecordIdsFromPayload (b.recordList none)
        = (((b.records.take pageLimit).zip (List.range (b.records.take pageLimit).length)).filter
          fun item => (b.values none item.1).all emptyValue).map Prod.snd := fun b => by
      unfold blankRecordIdsFromPayload Base.recordList
      rw [List.zip_map_left, List.filter_map, List.map_map]
      rfl
    rw [hone, hone, h]
    congr 1
    refine List.filter_congr fun item hitem => ?_
    have hmem : item.1 ∈ b'.records := List.mem_of_mem_take (List.of_mem_zip hitem).1
    rw [Bool.eq_iff_iff, all_values_iff hmem, all_values_iff (h ▸ hmem)]
  unfold planOf initPlan
  rw [htask, hblank]

end

/-! ## Commands -/

section
variable {s s' : Session}

theorem bind_eq_ok {α β : Type} {x : InitM α} {f : α → InitM β} {r : β × Session} :
    (x >>= f) s = .ok r ↔ ∃ a s₁, x s = .ok (a, s₁) ∧ f a s₁ = .ok r := by
  show (x s >>= fun p => f p.1 p.2) = .ok r ↔ _
  cases hx : x s with
  | error e =>
    constructor
    · intro h
      cases h
    · rintro ⟨a, s₁, h, -⟩
      cases h
  | ok p =>
    constructor
    · exact fun h => ⟨p.1, p.2, rfl, h⟩
    · rintro ⟨a, s₁, h, hf⟩
      cases h
      exact hf

theorem lark_eq_ok {α : Type} {f : Session → Option (α × Session)} {r : α × Session} :
    lark fails f s = .ok r ↔
      fails s.calls = false ∧ f { s with calls := s.calls + 1 } = some r := by
  unfold lark
  dsimp only
  cases fails s.calls with
  | true => simp
  | false =>
    cases f { s with calls := s.calls + 1 } <;> simp

theorem readFields_ok {fields : List Field} (h : readFields fails s = .ok (fields, s')) :
    fields = s.base.fields ∧ s'.base = s.base ∧ s'.log = s.log := by
  obtain ⟨-, h⟩ := lark_eq_ok.mp h
  cases h
  exact ⟨rfl, rfl, rfl⟩

theorem readRecords_ok {fieldId : Option String} {payload : RecordPayload}
    (h : readRecords fails fieldId s = .ok (payload, s')) :
    payload = s.base.recordList fieldId ∧ s'.base = s.base ∧ s'.log = s.log := by
  obtain ⟨-, h⟩ := lark_eq_ok.mp h
  cases h
  exact ⟨rfl, rfl, rfl⟩

theorem createField_ok {field : Field} {u : Unit} (h : createField fails field s = .ok (u, s')) :
    s'.base.records = s.base.records ∧
      s'.base.fields.map Field.name = s.base.fields.map Field.name ++ [field.name] ∧
      s'.log = s.log := by
  obtain ⟨-, h⟩ := lark_eq_ok.mp h
  obtain ⟨b, hb, heq⟩ := Option.map_eq_some_iff.mp h
  cases heq
  dsimp only at hb
  unfold Base.createField at hb
  split at hb
  · cases hb
  · cases hb
    exact ⟨rfl, List.map_append, rfl⟩

theorem createFields_ok {fields : List Field} {u : Unit}
    (h : fields.forM (createField fails) s = .ok (u, s')) :
    s'.base.records = s.base.records ∧
      s'.base.fields.map Field.name = s.base.fields.map Field.name ++ fields.map Field.name ∧
      s'.log = s.log := by
  induction fields generalizing s with
  | nil =>
    cases h
    exact ⟨rfl, (List.append_nil _).symm, rfl⟩
  | cons field fields ih =>
    obtain ⟨u', s₁, hfirst, hrest⟩ := bind_eq_ok.mp h
    obtain ⟨h₁, h₂, h₃⟩ := createField_ok hfirst
    obtain ⟨k₁, k₂, k₃⟩ := ih hrest
    refine ⟨k₁.trans h₁, ?_, k₃.trans h₃⟩
    rw [k₂, h₂, List.append_assoc]
    rfl

theorem updateField_ok {definition : Field} {u : Unit}
    (h : updateField fails definition s = .ok (u, s')) :
    s'.base.records = s.base.records ∧
      s'.base.fields.map Field.name = s.base.fields.map Field.name ∧ s'.log = s.log := by
  obtain ⟨-, h⟩ := lark_eq_ok.mp h
  cases h
  refine ⟨rfl, ?_, rfl⟩
  show (s.base.fields.map _).map Field.name = _
  rw [List.map_map]
  refine List.map_congr_left fun field _ => ?_
  show Field.name (if field.name = definition.name then definition else field) = field.name
  split
  · next heq => exact heq.symm
  · rfl

theorem set_eq_modify {l : List Record} {i : Nat} (h : i < l.length) (f : Record → Record) :
    l.set i (f l[i]) = l.modify i f := by
  refine List.ext_getElem? fun j => ?_
  rw [List.getElem?_set, List.getElem?_modify]
  split
  · next heq =>
    subst heq
    rw [List.getElem?_eq_getElem h]
    rfl
  · cases l[j]? <;> rfl

theorem upsertRecord_ok {recordId : Nat} {row : Row} {u : Unit}
    (h : upsertRecord fails recordId row s = .ok (u, s')) :
    s'.base.records = s.base.records.modify recordId (overwrite · row) ∧
      s'.base.fields = s.base.fields ∧ s'.log = s.log ++ [.updated recordId row.taskId] := by
  obtain ⟨-, h⟩ := lark_eq_ok.mp h
  obtain ⟨b, hb, heq⟩ := Option.map_eq_some_iff.mp h
  cases heq
  dsimp only at hb
  unfold Base.upsert at hb
  split at hb
  · next haccepts =>
    cases hb
    exact ⟨set_eq_modify haccepts.2 (overwrite · row), rfl, rfl⟩
  · cases hb

theorem upserts_ok {pairs : List (Nat × Row)} {u : Unit}
    (h : pairs.forM (fun item => upsertRecord fails item.1 item.2) s = .ok (u, s')) :
    s'.base.records = fill s.base.records pairs ∧ s'.base.fields = s.base.fields ∧
      s'.log = s.log ++ pairs.map fun item => .updated item.1 item.2.taskId := by
  induction pairs generalizing s with
  | nil =>
    cases h
    exact ⟨rfl, rfl, (List.append_nil _).symm⟩
  | cons item pairs ih =>
    obtain ⟨u', s₁, hfirst, hrest⟩ := bind_eq_ok.mp h
    obtain ⟨h₁, h₂, h₃⟩ := upsertRecord_ok hfirst
    obtain ⟨k₁, k₂, k₃⟩ := ih hrest
    refine ⟨?_, k₂.trans h₂, ?_⟩
    · rw [k₁, h₁]
      rfl
    · rw [k₃, h₃, List.append_assoc]
      rfl

theorem batchCreate_ok {rows : List Row} {u : Unit} (h : batchCreate fails rows s = .ok (u, s')) :
    s'.base.records = s.base.records ++ rows.map newRecord ∧ s'.base.fields = s.base.fields ∧
      s'.log = s.log ++ rows.map fun row => .created row.taskId := by
  obtain ⟨-, h⟩ := lark_eq_ok.mp h
  obtain ⟨b, hb, heq⟩ := Option.map_eq_some_iff.mp h
  cases heq
  dsimp only at hb
  unfold Base.batchCreate at hb
  split at hb
  · cases hb
    exact ⟨rfl, rfl, rfl⟩
  · cases hb

theorem batchCreates_ok {chunks : List (List Row)} {u : Unit}
    (h : chunks.forM (batchCreate fails) s = .ok (u, s')) :
    s'.base.records = s.base.records ++ chunks.flatten.map newRecord ∧
      s'.base.fields = s.base.fields ∧
      s'.log = s.log ++ chunks.flatten.map fun row => .created row.taskId := by
  induction chunks generalizing s with
  | nil =>
    cases h
    exact ⟨(List.append_nil _).symm, rfl, (List.append_nil _).symm⟩
  | cons chunk chunks ih =>
    obtain ⟨u', s₁, hfirst, hrest⟩ := bind_eq_ok.mp h
    obtain ⟨h₁, h₂, h₃⟩ := batchCreate_ok hfirst
    obtain ⟨k₁, k₂, k₃⟩ := ih hrest
    refine ⟨?_, k₂.trans h₂, ?_⟩
    · rw [k₁, h₁, List.flatten_cons, List.map_append, List.append_assoc]
    · rw [k₃, h₃, List.flatten_cons, List.map_append, List.append_assoc]

/-- The chunks are the rows. -/
theorem flatten_chunkedRows (rows : List Row) {size : Nat} (h : 0 < size) :
    (chunkedRows rows size).flatten = rows := by
  have htake : ∀ n, ((List.range n).map fun i => (rows.drop (i * size)).take size).flatten
      = rows.take (n * size) := by
    intro n
    induction n with
    | zero => simp
    | succ n ih =>
      rw [List.range_succ, List.map_append, List.flatten_append, ih, List.map_singleton,
        List.flatten_singleton, Nat.succ_mul, List.take_add]
  rw [chunkedRows, htake]
  refine List.take_of_length_le ?_
  have hdiv := Nat.div_add_mod (rows.length + size - 1) size
  have hmod := Nat.mod_lt (rows.length + size - 1) h
  rw [Nat.mul_comm] at hdiv
  omega

end

/-! ## The run -/

/-- What a run with `--write` leaves. -/
structure Written (py : Python) (rows : List Row) (s s' : Session) : Prop where
  records : s'.base.records = fill s.base.records (planOf py rows s.base).pairs
    ++ (planOf py rows s.base).rowsToCreate.map newRecord
  log : s'.log = s.log ++ ((planOf py rows s.base).pairs.map fun item =>
    .updated item.1 item.2.taskId) ++ (planOf py rows s.base).rowsToCreate.map fun row =>
      .created row.taskId

section
variable {rows : List Row} {args : InitArgs} {s s' : Session}

theorem names_definitions : feishuInitFieldDefinitions.map Field.name = feishuRowFields := by
  decide

/-- With the fields that are created, there are all row fields. -/
theorem accepts_of_created {b : Base} {fields : List Field}
    (h : b.fields.map Field.name
      = fields.map Field.name ++ (missingFeishuInitFieldDefinitions fields).map Field.name) :
    b.Accepts := by
  intro name hname
  rw [h, List.mem_append]
  by_cases hold : name ∈ fields.map Field.name
  · exact Or.inl hold
  · rw [← names_definitions] at hname
    obtain ⟨definition, hdefinition, rfl⟩ := List.mem_map.mp hname
    exact Or.inr (List.mem_map_of_mem (List.mem_filter.mpr ⟨hdefinition, decide_eq_true hold⟩))

theorem addStatusOptions_ok {statusOptions : List String} {u : Unit}
    (h : addStatusOptions fails statusOptions s = .ok (u, s')) :
    s'.base.records = s.base.records ∧
      s'.base.fields.map Field.name = s.base.fields.map Field.name ∧ s'.log = s.log := by
  unfold addStatusOptions at h
  split at h
  · cases h
    exact ⟨rfl, rfl, rfl⟩
  · exact updateField_ok h

/-- The plan that is carried out is that of the records. -/
theorem planAgain_ok {fieldsToCreate : List Field} {plan plan' : Plan}
    (hplan : fieldsToCreate = [] → plan = planOf py rows s.base)
    (h : planAgain py fails rows fieldsToCreate plan s = .ok (plan', s')) :
    plan' = planOf py rows s.base ∧ s'.base = s.base ∧ s'.log = s.log := by
  unfold planAgain at h
  split at h
  · next hnil =>
    cases h
    exact ⟨hplan hnil, rfl, rfl⟩
  · obtain ⟨taskPayload, s₁, htask, h⟩ := bind_eq_ok.mp h
    obtain ⟨allPayload, s₂, hall, h⟩ := bind_eq_ok.mp h
    obtain ⟨rfl, hbase₁, hlog₁⟩ := readRecords_ok htask
    obtain ⟨rfl, hbase₂, hlog₂⟩ := readRecords_ok hall
    cases h
    refine ⟨?_, hbase₂.trans hbase₁, hlog₂.trans hlog₁⟩
    rw [hbase₁]
    rfl

theorem writeInit_ok {statusOptions : List String} {plan : Plan} {code : Int}
    (hplan : missingFeishuInitFieldDefinitions s.base.fields = [] → plan = planOf py rows s.base)
    (h : writeInit py fails rows (missingFeishuInitFieldDefinitions s.base.fields) statusOptions plan s
      = .ok (code, s')) :
    Written py rows s s' ∧ s'.base.Accepts := by
  obtain ⟨u, s₁, hcreate, h⟩ := bind_eq_ok.mp h
  obtain ⟨u₂, s₂, hstatus, h⟩ := bind_eq_ok.mp h
  obtain ⟨plan', s₃, hagain, h⟩ := bind_eq_ok.mp h
  obtain ⟨u₄, s₄, hupsert, h⟩ := bind_eq_ok.mp h
  obtain ⟨u₅, s₅, hbatch, h⟩ := bind_eq_ok.mp h
  cases h
  obtain ⟨hrecords₁, hnames₁, hlog₁⟩ := createFields_ok hcreate
  obtain ⟨hrecords₂, hnames₂, hlog₂⟩ := addStatusOptions_ok hstatus
  have hsame : planOf py rows s₂.base = planOf py rows s.base :=
    planOf_congr (hrecords₂.trans hrecords₁)
  obtain ⟨rfl, hbase₃, hlog₃⟩ := planAgain_ok (fun hnil => (hplan hnil).trans hsame.symm) hagain
  obtain ⟨hrecords₄, hfields₄, hlog₄⟩ := upserts_ok hupsert
  obtain ⟨hrecords₅, hfields₅, hlog₅⟩ := batchCreates_ok hbatch
  rw [flatten_chunkedRows _ (by decide)] at hrecords₅ hlog₅
  rw [hsame] at hrecords₄ hlog₄ hrecords₅ hlog₅
  refine ⟨⟨?_, ?_⟩, @accepts_of_created _ s.base.fields ?_⟩
  · rw [hrecords₅, hrecords₄, hbase₃, hrecords₂, hrecords₁]
    rfl
  · rw [hlog₅, hlog₄, hlog₃, hlog₂, hlog₁]
    rfl
  · rw [hfields₅, hfields₄, hbase₃, hnames₂, hnames₁]

theorem readTaskRecords_ok {fieldsToCreate : List Field} {payload : Option RecordPayload}
    (h : readTaskRecords fails fieldsToCreate s = .ok (payload, s')) :
    (fieldsToCreate = [] → payload = some (s.base.recordList (some "Task ID"))) ∧
      s'.base = s.base ∧ s'.log = s.log := by
  unfold readTaskRecords at h
  split at h
  · obtain ⟨payload', s₁, hread, h⟩ := bind_eq_ok.mp h
    obtain ⟨rfl, hbase, hlog⟩ := readRecords_ok hread
    cases h
    exact ⟨fun _ => rfl, hbase, hlog⟩
  · next hne =>
    cases h
    exact ⟨fun hnil => absurd hnil hne, rfl, rfl⟩

theorem listAndInit_ok (hwrite : args.write = true)
    (h : listAndInit py fails args rows s = .ok (0, s')) :
    Written py rows s s' ∧ s'.base.Accepts := by
  obtain ⟨fields, s₁, hfields, h⟩ := bind_eq_ok.mp h
  obtain ⟨taskPayload, s₂, htask, h⟩ := bind_eq_ok.mp h
  obtain ⟨allPayload, s₃, hall, h⟩ := bind_eq_ok.mp h
  obtain ⟨rfl, hbase₁, hlog₁⟩ := readFields_ok hfields
  obtain ⟨hpayload, hbase₂, hlog₂⟩ := readTaskRecords_ok htask
  obtain ⟨rfl, hbase₃, hlog₃⟩ := readRecords_ok hall
  have hbase : s₃.base = s.base := hbase₃.trans (hbase₂.trans hbase₁)
  have hlog : s₃.log = s.log := hlog₃.trans (hlog₂.trans hlog₁)
  rw [hwrite, if_neg (by decide)] at h
  split at h
  · next hready =>
    -- the code of a command line that is not ready is not 0
    exact absurd (Prod.mk.inj (Except.ok.inj h)).1 hready
  · have hplan : missingFeishuInitFieldDefinitions s₃.base.fields = [] →
        initPlan py rows taskPayload (s₂.base.recordList none) = planOf py rows s₃.base := fun hnil => by
      rw [hbase] at hnil
      rw [hpayload hnil, hbase₁, hbase₂, hbase₁, hbase, planOf]
    rw [← hbase] at h
    obtain ⟨hwritten, haccepts⟩ := writeInit_ok hplan h
    refine ⟨⟨?_, ?_⟩, haccepts⟩
    · rw [hwritten.records, hbase]
    · rw [hwritten.log, hbase, hlog]

theorem nothing_to_write {p : Plan} (h : p.missingRows = []) :
    p.pairs = [] ∧ p.rowsToCreate = [] := by
  unfold Plan.pairs Plan.rowsToCreate
  rw [h]
  simp

/-- What a run with `--write` that succeeds leaves in the table. -/
theorem runInit_written {tasks : List Row} (hwrite : args.write = true)
    (h : runInitFeishu py fails args tasks s = .ok (0, s')) :
    Written py (buildFeishuRows py tasks args.taskFilter) s s' ∧
      (buildFeishuRows py tasks args.taskFilter ≠ [] → s'.base.Accepts) := by
  unfold runInitFeishu at h
  split at h
  · cases h
  split at h
  · cases h
  split at h
  · cases h
  split at h
  · next hempty =>
    cases h
    have hnil := List.isEmpty_iff.mp hempty
    rw [hnil]
    obtain ⟨hpairs, hcreate⟩ := nothing_to_write (p := planOf py [] s.base) rfl
    refine ⟨⟨?_, ?_⟩, fun hne => absurd rfl hne⟩
    · rw [hpairs, hcreate]
      exact (List.append_nil _).symm
    · rw [hpairs, hcreate]
      simp
  · obtain ⟨hwritten, haccepts⟩ := listAndInit_ok hwrite h
    exact ⟨hwritten, fun _ => haccepts⟩

end

/-! ## The records after a run -/

section
variable {records : List Record} {pairs : List (Nat × Row)}

theorem fill_of_not_mem {i : Nat} (h : i ∉ pairs.map Prod.fst) : (fill records pairs)[i]? = records[i]? := by
  induction pairs generalizing records with
  | nil => rfl
  | cons item pairs ih =>
    show (fill (records.modify item.1 (overwrite · item.2)) pairs)[i]? = _
    rw [ih (List.not_mem_of_not_mem_cons h), List.getElem?_modify_ne _ _ (List.ne_of_not_mem_cons h).symm]

theorem fill_of_mem (hnodup : (pairs.map Prod.fst).Nodup) {i : Nat} {row : Row}
    (h : (i, row) ∈ pairs) : (fill records pairs)[i]? = records[i]?.map (overwrite · row) := by
  induction pairs generalizing records with
  | nil => cases h
  | cons item pairs ih =>
    obtain ⟨hnew, hnodup⟩ := List.nodup_cons.mp hnodup
    show (fill (records.modify item.1 (overwrite · item.2)) pairs)[i]? = _
    rcases List.mem_cons.mp h with rfl | h
    · rw [fill_of_not_mem hnew, List.getElem?_modify_eq]
      rfl
    · have hne : item.1 ≠ i := fun heq => hnew (heq ▸ List.mem_map_of_mem h)
      rw [ih hnodup h, List.getElem?_modify_ne _ _ hne]

theorem length_fill : (fill records pairs).length = records.length := by
  induction pairs generalizing records with
  | nil => rfl
  | cons item pairs ih =>
    show (fill (records.modify item.1 (overwrite · item.2)) pairs).length = _
    rw [ih, List.length_modify]

end

section
variable {b : Base} {rows : List Row} {s s' : Session}

theorem map_fst_pairs (p : Plan) : p.pairs.map Prod.fst = p.blankRecordIds.take p.reusable := by
  unfold Plan.pairs
  refine List.map_fst_zip ?_
  rw [List.length_take, List.length_take]
  unfold Plan.reusable
  omega

theorem map_snd_pairs (p : Plan) : p.pairs.map Prod.snd = p.missingRows.take p.reusable := by
  unfold Plan.pairs
  refine List.map_snd_zip ?_
  rw [List.length_take, List.length_take]
  unfold Plan.reusable
  omega

/-- A record is kept, reused or new. -/
theorem getElem?_final {i : Nat} {r : Record} :
    (fill b.records (planOf py rows b).pairs ++ (planOf py rows b).rowsToCreate.map newRecord)[i]?
        = some r ↔
      (b.records[i]? = some r ∧ i ∉ (planOf py rows b).blankRecordIds.take (planOf py rows b).reusable) ∨
      (∃ old row, b.records[i]? = some old ∧ (i, row) ∈ (planOf py rows b).pairs ∧
        r = overwrite old row) ∨
      (b.records.length ≤ i ∧
        ∃ row, (planOf py rows b).rowsToCreate[i - b.records.length]? = some row ∧
          r = newRecord row) := by
  have hnodup : ((planOf py rows b).pairs.map Prod.fst).Nodup := by
    rw [map_fst_pairs]
    exact nodup_blank.sublist (List.take_sublist _ _)
  by_cases hlt : i < b.records.length
  · rw [List.getElem?_append_left (by rw [length_fill]; exact hlt), ← map_fst_pairs]
    by_cases hpair : i ∈ (planOf py rows b).pairs.map Prod.fst
    · obtain ⟨⟨i, row⟩, hmem, rfl⟩ := List.mem_map.mp hpair
      rw [fill_of_mem hnodup hmem, Option.map_eq_some_iff]
      constructor
      · rintro ⟨old, hold, rfl⟩
        exact Or.inr (Or.inl ⟨old, row, hold, hmem, rfl⟩)
      · rintro (⟨-, hnot⟩ | ⟨old, row', hold, hmem', rfl⟩ | ⟨hle, -⟩)
        · exact absurd hpair hnot
        · refine ⟨old, hold, ?_⟩
          cases List.inj_on_of_nodup_map hnodup hmem hmem' rfl
          rfl
        · exact absurd hlt (Nat.not_lt.mpr hle)
    · rw [fill_of_not_mem hpair]
      constructor
      · exact fun h => Or.inl ⟨h, hpair⟩
      · rintro (⟨h, -⟩ | ⟨_, _, -, hmem, -⟩ | ⟨hle, -⟩)
        · exact h
        · exact absurd (List.mem_map_of_mem hmem) hpair
        · exact absurd hlt (Nat.not_lt.mpr hle)
  · have hle := Nat.not_lt.mp hlt
    have hnone : b.records[i]? = none := List.getElem?_eq_none hle
    rw [List.getElem?_append_right (by rw [length_fill]; exact hle), length_fill, List.getElem?_map,
      Option.map_eq_some_iff, hnone]
    constructor
    · rintro ⟨row, hrow, rfl⟩
      exact Or.inr (Or.inr ⟨hle, row, hrow, rfl⟩)
    · rintro (⟨h, -⟩ | ⟨_, _, h, -⟩ | ⟨-, row, hrow, rfl⟩)
      · cases h
      · cases h
      · exact ⟨row, hrow, rfl⟩

theorem overwrite_taskId (r : Record) (row : Row) : overwrite r row "Task ID" = .str row.taskId := by
  rw [overwrite, if_pos (by decide), Row.cell, if_pos rfl]

theorem mapKey_overwrite (r : Record) (row : Row) :
    mapKey py (overwrite r row) = taskKey py row.taskId := by
  rw [mapKey, overwrite_taskId]
  rfl

theorem isOf_overwrite {r : Record} {row : Row} {taskId : String} :
    IsOf py (overwrite r row) taskId ↔
      taskKey py row.taskId = taskKey py taskId ∧ taskKey py taskId ≠ none := by
  constructor
  · exact fun h => ⟨(mapKey_overwrite r row).symm.trans h.key, h.some⟩
  · rintro ⟨hkey, hsome⟩
    refine ⟨?_, (mapKey_overwrite r row).trans hkey, hsome⟩
    rw [overwrite_taskId]
    -- an empty id has no key
    refine decide_eq_false fun hempty => hsome ?_
    rw [← hkey, hempty, taskKey, if_pos]
    simp [stripText, Python.strip]

/-- The missing rows are those that are reused and those that are created. -/
theorem mem_missing_iff {p : Plan} {row : Row} :
    row ∈ p.missingRows ↔ (∃ i, (i, row) ∈ p.pairs) ∨ row ∈ p.rowsToCreate := by
  have hpairs : (∃ i, (i, row) ∈ p.pairs) ↔ row ∈ p.missingRows.take p.reusable := by
    rw [← map_snd_pairs, List.mem_map]
    constructor
    · rintro ⟨i, h⟩
      exact ⟨(i, row), h, rfl⟩
    · rintro ⟨⟨i, row⟩, h, rfl⟩
      exact ⟨i, h⟩
  rw [hpairs, Plan.rowsToCreate, ← List.mem_append, List.take_append_drop]

/-- The blank record of a pair. -/
theorem old_of_mem_pairs {i : Nat} {row : Row} (h : (i, row) ∈ (planOf py rows b).pairs) :
    i < pageLimit ∧ ∃ old, b.records[i]? = some old ∧ Blank old := by
  have hmem : i ∈ (planOf py rows b).blankRecordIds.take (planOf py rows b).reusable := by
    rw [← map_fst_pairs]
    exact List.mem_map_of_mem h
  exact mem_blank.mp (List.mem_of_mem_take hmem)

/-- A record that is not blank is kept. -/
theorem kept_of_not_blank (h : Written py rows s s') {i : Nat} {r : Record}
    (hr : s.base.records[i]? = some r) (hblank : ¬ Blank r) : s'.base.records[i]? = some r := by
  rw [h.records]
  refine getElem?_final.mpr (Or.inl ⟨hr, fun hmem => hblank ?_⟩)
  obtain ⟨-, r', hr', hblank'⟩ := mem_blank.mp (List.mem_of_mem_take hmem)
  cases hr.symm.trans hr'
  exact hblank'

/-- The record of a missing row. -/
theorem record_of_missing (h : Written py rows s s') {row : Row}
    (hrow : row ∈ (planOf py rows s.base).missingRows) :
    ∃ r, overwrite r row ∈ s'.base.records := by
  rw [h.records]
  rcases mem_missing_iff.mp hrow with ⟨i, hpair⟩ | hcreate
  · obtain ⟨-, old, hold, -⟩ := old_of_mem_pairs hpair
    exact ⟨old, List.mem_of_getElem? (getElem?_final.mpr (Or.inr (Or.inl ⟨old, row, hold, hpair, rfl⟩)))⟩
  · exact ⟨fun _ => .null, List.mem_append_right _ (List.mem_map_of_mem hcreate)⟩

/-- The tasks that have a record after a run: those that had one, and the missing ones. -/
theorem hasRecord_after (h : Written py rows s s') {taskId : String} :
    HasRecord py s'.base.records taskId ↔ HasRecord py s.base.records taskId ∨
      ∃ row ∈ (planOf py rows s.base).missingRows,
        taskKey py row.taskId = taskKey py taskId ∧ taskKey py taskId ≠ none := by
  constructor
  · rintro ⟨r, hr, hof⟩
    obtain ⟨i, hi⟩ := List.mem_iff_getElem?.mp hr
    rw [h.records] at hi
    rcases getElem?_final.mp hi with ⟨hi, -⟩ | ⟨old, row, -, hpair, rfl⟩ | ⟨-, row, hrow, rfl⟩
    · exact Or.inl ⟨r, List.mem_of_getElem? hi, hof⟩
    · exact Or.inr ⟨row, mem_missing_iff.mpr (Or.inl ⟨i, hpair⟩), isOf_overwrite.mp hof⟩
    · exact Or.inr ⟨row, mem_missing_iff.mpr (Or.inr (List.mem_of_getElem? hrow)),
        isOf_overwrite.mp hof⟩
  · rintro (⟨r, hr, hof⟩ | ⟨row, hrow, hkey⟩)
    · obtain ⟨i, hi⟩ := List.mem_iff_getElem?.mp hr
      have hblank : ¬ Blank r := fun hblank => by
        have hgiven := hof.given
        rw [hblank "Task ID"] at hgiven
        cases hgiven
      exact ⟨r, List.mem_of_getElem? (kept_of_not_blank h hi hblank), hof⟩
    · obtain ⟨r, hr⟩ := record_of_missing h hrow
      exact ⟨_, hr, isOf_overwrite.mpr hkey⟩

/-- What the first page shows after a run. -/
theorem listed_after (h : Written py rows s s') {taskId : String} :
    Listed py s'.base.records taskId ↔
      (∃ (i : Nat) (r : Record), i < pageLimit ∧ s.base.records[i]? = some r ∧
        mapKey py r = some (py.upper taskId) ∧
        i ∉ (planOf py rows s.base).blankRecordIds.take (planOf py rows s.base).reusable) ∨
      ∃ row ∈ (planOf py rows s.base).missingRows.take
          ((planOf py rows s.base).reusable + (pageLimit - s.base.records.length)),
        taskKey py row.taskId = some (py.upper taskId) := by
  constructor
  · rintro ⟨r, hr, hkey⟩
    obtain ⟨i, hlt, hi⟩ := mem_page.mp hr
    rw [h.records] at hi
    rcases getElem?_final.mp hi with ⟨hi, hnot⟩ | ⟨old, row, -, hpair, rfl⟩ | ⟨hle, row, hrow, rfl⟩
    · exact Or.inl ⟨i, r, hlt, hi, hkey, hnot⟩
    · refine Or.inr ⟨row, ?_, (mapKey_overwrite old row).symm.trans hkey⟩
      have hmem : row ∈ (planOf py rows s.base).missingRows.take (planOf py rows s.base).reusable := by
        rw [← map_snd_pairs]
        exact List.mem_map_of_mem hpair
      exact List.take_subset_take_left _ (Nat.le_add_right _ _) hmem
    · refine Or.inr ⟨row, ?_, (mapKey_overwrite _ row).symm.trans hkey⟩
      rw [Plan.rowsToCreate, List.getElem?_drop] at hrow
      refine List.mem_iff_getElem?.mpr
        ⟨(planOf py rows s.base).reusable + (i - s.base.records.length), ?_⟩
      rw [List.getElem?_take, if_pos (by omega)]
      exact hrow
  · rintro (⟨i, r, hlt, hr, hkey, hnot⟩ | ⟨row, hrow, hkey⟩)
    · refine ⟨r, mem_page.mpr ⟨i, hlt, ?_⟩, hkey⟩
      rw [h.records]
      exact getElem?_final.mpr (Or.inl ⟨hr, hnot⟩)
    · obtain ⟨j, hj⟩ := List.mem_iff_getElem?.mp hrow
      rw [List.getElem?_take] at hj
      split at hj
      · next hlt =>
        by_cases hreused : j < (planOf py rows s.base).reusable
        · have hmem : row ∈ (planOf py rows s.base).pairs.map Prod.snd := by
            rw [map_snd_pairs]
            exact List.mem_iff_getElem?.mpr ⟨j, by rw [List.getElem?_take, if_pos hreused]; exact hj⟩
          obtain ⟨⟨i, row⟩, hpair, rfl⟩ := List.mem_map.mp hmem
          obtain ⟨hpage, old, hold, -⟩ := old_of_mem_pairs hpair
          refine ⟨overwrite old row, mem_page.mpr ⟨i, hpage, ?_⟩, (mapKey_overwrite old row).trans hkey⟩
          rw [h.records]
          exact getElem?_final.mpr (Or.inr (Or.inl ⟨old, row, hold, hpair, rfl⟩))
        · -- a new record, and there is room for it on the page
          refine ⟨newRecord row, mem_page.mpr ⟨s.base.records.length
            + (j - (planOf py rows s.base).reusable), by omega, ?_⟩, (mapKey_overwrite _ row).trans hkey⟩
          rw [h.records]
          refine getElem?_final.mpr (Or.inr (Or.inr ⟨Nat.le_add_right _ _, row, ?_, rfl⟩))
          rw [Plan.rowsToCreate, List.getElem?_drop, ← hj]
          congr 1
          omega
      · cases hj

/-- The log has the missing tasks. -/
theorem mem_log_iff (h : Written py rows s s') (hlog : s.log = []) {taskId : String} :
    (∃ w ∈ s'.log, w.taskId = taskId) ↔
      ∃ row ∈ (planOf py rows s.base).missingRows, row.taskId = taskId := by
  rw [h.log, hlog, List.nil_append]
  constructor
  · rintro ⟨w, hw, rfl⟩
    rcases List.mem_append.mp hw with hw | hw
    · obtain ⟨⟨i, row⟩, hpair, rfl⟩ := List.mem_map.mp hw
      exact ⟨row, mem_missing_iff.mpr (Or.inl ⟨i, hpair⟩), rfl⟩
    · obtain ⟨row, hrow, rfl⟩ := List.mem_map.mp hw
      exact ⟨row, mem_missing_iff.mpr (Or.inr hrow), rfl⟩
  · rintro ⟨row, hrow, rfl⟩
    rcases mem_missing_iff.mp hrow with ⟨i, hpair⟩ | hcreate
    · exact ⟨_, List.mem_append_left _ (List.mem_map_of_mem hpair), rfl⟩
    · exact ⟨_, List.mem_append_right _ (List.mem_map_of_mem hcreate), rfl⟩

end

/-! ## Runs that write nothing -/

/-- The end of a command from `s` that writes no record and answers as `P` says. -/
def QuietEnd {α : Type} (s : Session) (P : α → Prop) : Except (Int × Session) (α × Session) → Prop
  | .ok (a, s') => P a ∧ s'.base.records = s.base.records ∧ s'.log = s.log
  | .error (_, s') => s'.log = s.log

def Quiet {α : Type} (x : InitM α) (s : Session) (P : α → Prop) : Prop := QuietEnd s P (x s)

section
variable {α β : Type} {s : Session}

theorem Quiet.log {x : InitM α} {P : α → Prop} (h : Quiet x s P) :
    (finalSession (x s)).log = s.log := by
  unfold Quiet at h
  cases hx : x s with
  | ok p =>
    rw [hx] at h
    exact h.2.2
  | error e =>
    rw [hx] at h
    exact h

theorem quiet_pure {a : α} {P : α → Prop} (h : P a) : Quiet (pure a) s P := ⟨h, rfl, rfl⟩

theorem quiet_bind {x : InitM α} {f : α → InitM β} {P : α → Prop} {Q : β → Prop} (hx : Quiet x s P)
    (hf : ∀ a s₁, P a → s₁.base.records = s.base.records → Quiet (f a) s₁ Q) :
    Quiet (x >>= f) s Q := by
  have hrun : (x >>= f) s = (x s >>= fun p => f p.1 p.2) := rfl
  unfold Quiet at hx ⊢
  rw [hrun]
  cases heq : x s with
  | error e =>
    rw [heq] at hx
    exact hx
  | ok p =>
    rw [heq] at hx
    obtain ⟨hp, hrecords, hlog⟩ := hx
    have hnext : QuietEnd p.2 Q (f p.1 p.2) := hf p.1 p.2 hp hrecords
    show QuietEnd s Q (f p.1 p.2)
    cases hlast : f p.1 p.2 with
    | error e =>
      rw [hlast] at hnext
      exact hnext.trans hlog
    | ok q =>
      rw [hlast] at hnext
      exact ⟨hnext.1, hnext.2.1.trans hrecords, hnext.2.2.trans hlog⟩

theorem quiet_lark {f : Session → Option (α × Session)} {P : α → Prop}
    (h : ∀ r, lark fails f s = .ok r → P r.1 ∧ r.2.base.records = s.base.records ∧ r.2.log = s.log) :
    Quiet (lark fails f) s P := by
  unfold Quiet
  cases hx : lark fails f s with
  | ok r => exact h r hx
  | error e =>
    -- a command that fails leaves the log
    unfold lark at hx
    dsimp only at hx
    split at hx
    · cases hx
      rfl
    · split at hx
      · cases hx
      · cases hx
        rfl

theorem quiet_readFields : Quiet (readFields fails) s fun _ => True := by
  refine quiet_lark fun r hr => ?_
  obtain ⟨-, hbase, hlog⟩ := readFields_ok hr
  exact ⟨trivial, congrArg Base.records hbase, hlog⟩

theorem quiet_readRecords (fieldId : Option String) :
    Quiet (readRecords fails fieldId) s fun payload => payload = s.base.recordList fieldId := by
  refine quiet_lark fun r hr => ?_
  obtain ⟨hpayload, hbase, hlog⟩ := readRecords_ok hr
  exact ⟨hpayload, congrArg Base.records hbase, hlog⟩

theorem quiet_createFields (fields : List Field) :
    Quiet (fields.forM (createField fails)) s fun _ => True := by
  induction fields generalizing s with
  | nil => exact quiet_pure trivial
  | cons field fields ih =>
    refine quiet_bind (P := fun _ => True) (quiet_lark fun r hr => ?_) fun _ _ _ _ => ih
    obtain ⟨hrecords, -, hlog⟩ := createField_ok hr
    exact ⟨trivial, hrecords, hlog⟩

theorem quiet_addStatusOptions (statusOptions : List String) :
    Quiet (addStatusOptions fails statusOptions) s fun _ => True := by
  unfold addStatusOptions
  split
  · exact quiet_pure trivial
  · refine quiet_lark fun r hr => ?_
    obtain ⟨hrecords, -, hlog⟩ := updateField_ok hr
    exact ⟨trivial, hrecords, hlog⟩

/-- No task of the rows is missing in the records. -/
def AllListed (py : Python) (rows : List Row) (records : List Record) : Prop :=
  ∀ row ∈ rows, Listed py records row.taskId

theorem missing_of_allListed {rows : List Row} {b : Base} {payload : RecordPayload}
    (h : AllListed py rows b.records) :
    (initPlan py rows (some (b.recordList (some "Task ID"))) payload).missingRows = [] := by
  refine List.eq_nil_iff_forall_not_mem.mpr fun row hrow => ?_
  obtain ⟨hmem, hnot⟩ := (mem_missing (b := b)).mp hrow
  exact hnot (h row hmem)

theorem quiet_planAgain {rows : List Row} {fieldsToCreate : List Field} {plan : Plan}
    (h : AllListed py rows s.base.records) (hplan : fieldsToCreate = [] → plan.missingRows = []) :
    Quiet (planAgain py fails rows fieldsToCreate plan) s fun plan => plan.missingRows = [] := by
  unfold planAgain
  split
  · next hnil => exact quiet_pure (hplan hnil)
  · refine quiet_bind (quiet_readRecords _) fun taskPayload s₁ htask _ => ?_
    refine quiet_bind (quiet_readRecords _) fun allPayload s₂ _ _ => ?_
    refine quiet_pure ?_
    rw [htask]
    exact missing_of_allListed h

theorem quiet_writeInit {rows : List Row} {fieldsToCreate : List Field}
    {statusOptions : List String} {plan : Plan} (h : AllListed py rows s.base.records)
    (hplan : fieldsToCreate = [] → plan.missingRows = []) :
    Quiet (writeInit py fails rows fieldsToCreate statusOptions plan) s fun _ => True := by
  refine quiet_bind (quiet_createFields _) fun _ s₁ _ h₁ => ?_
  refine quiet_bind (quiet_addStatusOptions _) fun _ s₂ _ h₂ => ?_
  have hlisted : AllListed py rows s₂.base.records := by
    rw [h₂, h₁]
    exact h
  refine quiet_bind (quiet_planAgain hlisted hplan) fun plan s₃ hmissing _ => ?_
  obtain ⟨hpairs, hcreate⟩ := nothing_to_write hmissing
  unfold Plan.pairs at hpairs
  rw [hpairs, hcreate]
  exact quiet_pure trivial

theorem quiet_readTaskRecords (fieldsToCreate : List Field) :
    Quiet (readTaskRecords fails fieldsToCreate) s fun payload =>
      fieldsToCreate = [] → payload = some (s.base.recordList (some "Task ID")) := by
  unfold readTaskRecords
  split
  · refine quiet_bind (quiet_readRecords _) fun payload s₁ hpayload _ => ?_
    exact quiet_pure fun _ => congrArg some hpayload
  · next hne => exact quiet_pure fun hnil => absurd hnil hne

theorem recordList_congr {b b' : Base} (h : b.records = b'.records) :
    b.recordList (some "Task ID") = b'.recordList (some "Task ID") := by
  unfold Base.recordList
  rw [h]
  rfl

theorem quiet_listAndInit {rows : List Row} {args : InitArgs}
    (h : AllListed py rows s.base.records) :
    Quiet (listAndInit py fails args rows) s fun _ => True := by
  refine quiet_bind quiet_readFields fun fields s₁ _ h₁ => ?_
  refine quiet_bind (quiet_readTaskRecords _) fun taskPayload s₂ htask h₂ => ?_
  refine quiet_bind (quiet_readRecords _) fun allPayload s₃ _ h₃ => ?_
  dsimp only
  split
  · exact quiet_pure trivial
  split
  · exact quiet_pure trivial
  have hlisted : AllListed py rows s₁.base.records := by
    rw [h₁]
    exact h
  refine quiet_writeInit (by rw [h₃, h₂]; exact hlisted) fun hnil => ?_
  rw [htask hnil]
  exact missing_of_allListed hlisted

/-- A run with tasks that the first page shows writes no record, however it ends. -/
theorem writes_nothing {tasks : List Row} (args : InitArgs) (h : AllListed py tasks s.base.records) :
    (finalSession (runInitFeishu py fails args tasks s)).log = s.log := by
  have hrows : AllListed py (buildFeishuRows py tasks args.taskFilter) s.base.records := fun row hrow => by
    unfold buildFeishuRows at hrow
    split at hrow
    · exact h row hrow
    · exact h row (List.mem_of_mem_filter hrow)
  refine Quiet.log (P := fun _ => True) ?_
  unfold runInitFeishu
  split
  · exact quiet_pure trivial
  split
  · exact quiet_pure trivial
  split
  · exact quiet_pure trivial
  split
  · exact quiet_pure trivial
  exact quiet_listAndInit hrows

end

/-! ## A run in which no command fails -/

/-- No command fails. -/
def never (_ : Nat) : Bool := false

section
variable {s : Session} {rows : List Row}

theorem bind_ok {α β : Type} {x : InitM α} {f : α → InitM β} {a : α} {s₁ : Session} {r : β × Session}
    (hx : x s = .ok (a, s₁)) (hf : f a s₁ = .ok r) : (x >>= f) s = .ok r :=
  bind_eq_ok.mpr ⟨a, s₁, hx, hf⟩

theorem lark_succeeds {α : Type} {f : Session → Option (α × Session)} {r : α × Session}
    (h : f { s with calls := s.calls + 1 } = some r) : lark never f s = .ok r :=
  lark_eq_ok.mpr ⟨rfl, h⟩

theorem addStatusOptions_succeeds (statusOptions : List String) :
    ∃ s', addStatusOptions never statusOptions s = .ok ((), s') := by
  unfold addStatusOptions
  split
  · exact ⟨s, rfl⟩
  · exact ⟨_, lark_succeeds rfl⟩

theorem upserts_succeed {pairs : List (Nat × Row)} (haccepts : s.base.Accepts)
    (hlt : ∀ item ∈ pairs, item.1 < s.base.records.length) :
    ∃ s', pairs.forM (fun item => upsertRecord never item.1 item.2) s = .ok ((), s') := by
  induction pairs generalizing s with
  | nil => exact ⟨s, rfl⟩
  | cons item pairs ih =>
    have hbase : s.base.Accepts ∧ item.1 < s.base.records.length :=
      ⟨haccepts, hlt item List.mem_cons_self⟩
    obtain ⟨b, hb⟩ : ∃ b, s.base.upsert item.1 item.2 = some b := by
      unfold Base.upsert
      rw [dif_pos hbase]
      exact ⟨_, rfl⟩
    have hfirst : upsertRecord never item.1 item.2 s
        = .ok ((), ⟨b, s.calls + 1, s.log ++ [.updated item.1 item.2.taskId]⟩) :=
      lark_succeeds (by rw [hb]; rfl)
    obtain ⟨hrecords, hfields, -⟩ := upsertRecord_ok hfirst
    obtain ⟨s', hrest⟩ := ih (s := ⟨b, s.calls + 1, s.log ++ [.updated item.1 item.2.taskId]⟩)
      (by unfold Base.Accepts; rw [hfields]; exact haccepts) fun item' hmem => by
        rw [hrecords, List.length_modify]
        exact hlt item' (List.mem_cons_of_mem _ hmem)
    exact ⟨s', bind_ok hfirst hrest⟩

theorem batchCreates_succeed {chunks : List (List Row)} (haccepts : s.base.Accepts) :
    ∃ s', chunks.forM (batchCreate never) s = .ok ((), s') := by
  induction chunks generalizing s with
  | nil => exact ⟨s, rfl⟩
  | cons chunk chunks ih =>
    obtain ⟨b, hb⟩ : ∃ b, s.base.batchCreate chunk = some b := by
      unfold Base.batchCreate
      rw [dif_pos haccepts]
      exact ⟨_, rfl⟩
    have hfirst : batchCreate never chunk s
        = .ok ((), ⟨b, s.calls + 1, s.log ++ chunk.map fun row => .created row.taskId⟩) :=
      lark_succeeds (by rw [hb]; rfl)
    obtain ⟨-, hfields, -⟩ := batchCreate_ok hfirst
    obtain ⟨s', hrest⟩ := ih
      (s := ⟨b, s.calls + 1, s.log ++ chunk.map fun row => .created row.taskId⟩)
      (by unfold Base.Accepts; rw [hfields]; exact haccepts)
    exact ⟨s', bind_ok hfirst hrest⟩

/-- With all row fields there is no field to create. -/
theorem missing_of_accepts {b : Base} (h : b.Accepts) :
    missingFeishuInitFieldDefinitions b.fields = [] := by
  refine List.filter_eq_nil_iff.mpr fun definition hmem => ?_
  have hname : definition.name ∈ feishuRowFields := by
    rw [← names_definitions]
    exact List.mem_map_of_mem hmem
  simpa using h _ hname

theorem writeInit_succeeds {statusOptions : List String} {plan : Plan} (haccepts : s.base.Accepts)
    (hlt : ∀ i ∈ plan.blankRecordIds, i < s.base.records.length) :
    ∃ s', writeInit py never rows [] statusOptions plan s = .ok (0, s') := by
  obtain ⟨s₁, hstatus⟩ := addStatusOptions_succeeds (s := s) statusOptions
  obtain ⟨hrecords, hnames, -⟩ := addStatusOptions_ok hstatus
  have haccepts₁ : s₁.base.Accepts := by
    unfold Base.Accepts
    rw [hnames]
    exact haccepts
  have hplaces : ∀ item ∈ plan.pairs, item.1 < s₁.base.records.length := fun item hmem => by
    rw [hrecords]
    refine hlt item.1 (List.mem_of_mem_take (i := plan.reusable) ?_)
    rw [← map_fst_pairs]
    exact List.mem_map_of_mem hmem
  obtain ⟨s₂, hupserts⟩ := upserts_succeed haccepts₁ hplaces
  obtain ⟨-, hfields, -⟩ := upserts_ok hupserts
  obtain ⟨s₃, hbatch⟩ := @batchCreates_succeed s₂ (chunkedRows plan.rowsToCreate 200)
    (by unfold Base.Accepts; rw [hfields]; exact haccepts₁)
  have hcreate : ([] : List Field).forM (createField never) s = .ok ((), s) := rfl
  have hagain : planAgain py never rows [] plan s₁ = .ok (plan, s₁) := rfl
  exact ⟨s₃, bind_ok hcreate (bind_ok hstatus (bind_ok hagain
    (bind_ok hupserts (bind_ok hbatch rfl))))⟩

/-- A run with all arguments in order, for all tasks. -/
def writeArgs : InitArgs := ⟨true, true, true, 0, none, true⟩

/-- The run succeeds on a table that has the row fields. -/
theorem runInit_succeeds {tasks : List Row} (h : tasks ≠ [] → s.base.Accepts) :
    ∃ s', runInitFeishu py never writeArgs tasks s = .ok (0, s') := by
  by_cases hnil : tasks = []
  · exact ⟨s, by rw [hnil]; rfl⟩
  have haccepts := h hnil
  have hrun : runInitFeishu py never writeArgs tasks s = listAndInit py never writeArgs tasks s := by
    have hrows : buildFeishuRows py tasks writeArgs.taskFilter = tasks := rfl
    unfold runInitFeishu
    rw [hrows, List.isEmpty_eq_false_iff.mpr hnil]
    rfl
  have hmissing := missing_of_accepts haccepts
  have htask : readTaskRecords never (missingFeishuInitFieldDefinitions s.base.fields)
      { s with calls := s.calls + 1 }
      = .ok (some (s.base.recordList (some "Task ID")), { s with calls := s.calls + 1 + 1 }) := by
    rw [hmissing]
    rfl
  obtain ⟨s', hwrite⟩ := @writeInit_succeeds py { s with calls := s.calls + 1 + 1 + 1 } tasks
    (if "Status" ∈ (missingFeishuInitFieldDefinitions s.base.fields).map Field.name
      then [] else missingFeishuStatusOptions s.base.fields)
    (planOf py tasks s.base) haccepts fun i hi =>
      (List.getElem?_eq_some_iff.mp (mem_blank.mp hi).2.choose_spec.1).1
  have hfields : readFields never s = .ok (s.base.fields, { s with calls := s.calls + 1 }) := rfl
  have hall : readRecords never none { s with calls := s.calls + 1 + 1 }
      = .ok (s.base.recordList none, { s with calls := s.calls + 1 + 1 + 1 }) := rfl
  refine ⟨s', ?_⟩
  rw [← hmissing] at hwrite
  rw [hrun]
  exact bind_ok hfields (bind_ok htask (bind_ok hall hwrite))

end

/-! ## Keys -/

theorem stripText_stripText (text : String) : stripText py (stripText py text) = stripText py text := by
  rw [stripText, stripText, String.toList_ofList, LegacyLawLemmas.strip_strip]

/-- An id that is a key in upper case is its own key. -/
theorem taskKey_self (h : UpperLaws py) {text taskId : String}
    (hkey : taskKey py text = some (py.upper taskId)) : taskKey py taskId = some (py.upper taskId) := by
  unfold taskKey at hkey
  split at hkey
  · cases hkey
  · next hne =>
    have hupper := Option.some.inj hkey
    have hstrip : py.upper (stripText py taskId) = py.upper taskId := by
      rw [← h.strip, ← hupper, h.strip, stripText_stripText]
    have hne' : stripText py taskId ≠ "" := fun hempty => hne <| h.empty _ <| by
      rw [hupper, ← hstrip, hempty]
    rw [taskKey, if_neg hne', hstrip]

theorem isSpace_toUpper (c : Char) : asciiPython.isSpace c.toUpper = asciiPython.isSpace c := by
  unfold Char.toUpper
  split
  · next h =>
    -- a lower case letter and its upper case are not white space
    have hlow : 97 ≤ c.toNat ∧ c.toNat ≤ 122 := ⟨h.1, h.2⟩
    have hspace (d : Char) (hd : 65 ≤ d.toNat) : asciiPython.isSpace d = false := by
      have hne : d ≠ ' ' := fun heq => by
        rw [heq] at hd
        exact absurd hd (by decide)
      have hleft : ¬ d.toNat ≤ 13 := by omega
      have hright : ¬ d.toNat ≤ 31 := by omega
      simp [asciiPython, hne, hleft, hright]
    rw [hspace c (by omega), hspace]
    show 65 ≤ (c.val + (65 - 97)).toNat
    rw [UInt32.toNat_add]
    have hval : c.val.toNat = c.toNat := rfl
    have hdiff : (65 - 97 : UInt32).toNat = 4294967264 := rfl
    omega
  · rfl

theorem upperLaws_ascii : UpperLaws asciiPython where
  strip text := by
    have hspace : asciiPython.isSpace ∘ Char.toUpper = asciiPython.isSpace :=
      funext isSpace_toUpper
    have hmap (cs : List Char) : asciiPython.strip (cs.map Char.toUpper)
        = (asciiPython.strip cs).map Char.toUpper := by
      unfold Python.strip
      rw [List.dropWhile_map, hspace, ← List.map_reverse, List.dropWhile_map, hspace,
        List.map_reverse]
    show String.ofList (asciiPython.strip (String.ofList (text.toList.map Char.toUpper)).toList)
      = String.ofList ((stripText asciiPython text).toList.map Char.toUpper)
    rw [String.toList_ofList, hmap, stripText, String.toList_ofList]
  empty text h := by
    have hchars : text.toList.map Char.toUpper = [] := String.ofList_inj.mp h
    exact String.toList_inj.mp (List.map_eq_nil_iff.mp hchars)

/-! ## Each task once -/

section
variable {tasks : List Row} {b : Base} {s s' : Session} {taskId : String}

theorem take_reusable (p : Plan) (n : Nat) :
    p.missingRows.take (p.reusable + n) = p.missingRows.take (p.blankRecordIds.length + n) := by
  rw [List.take_eq_take_iff, Plan.reusable]
  omega

theorem take_reused (p : Plan) :
    p.blankRecordIds.take p.reusable = p.blankRecordIds.take p.missingRows.length := by
  rw [List.take_eq_take_iff, Plan.reusable]
  omega

/-- The first page has room exactly if it shows every task after the run. -/
theorem fits_iff (h : Written py tasks s s')
    (htrimmed : ∀ row ∈ tasks, taskKey py row.taskId = some (py.upper row.taskId)) :
    Fits py tasks s.base ↔ AllListed py tasks s'.base.records := by
  refine forall₂_congr fun row _ => ?_
  rw [listed_after h, take_reusable, take_reused]
  refine or_congr Iff.rfl (exists_congr fun row' => and_congr_right fun hrow' => ?_)
  rw [htrimmed row' (mem_missing.mp (List.mem_of_mem_take hrow')).1, Option.some_inj]

/-- A task without a record that has one after the run was missing, and so the page did not show it. -/
theorem listed_hasRecord (h : Written py tasks s s')
    (htrimmed : ∀ row ∈ tasks, taskKey py row.taskId = some (py.upper row.taskId))
    (hkey : taskKey py taskId = some (py.upper taskId))
    (hafter : HasRecord py s'.base.records taskId) (hlisted : Listed py s.base.records taskId) :
    HasRecord py s.base.records taskId := by
  rcases (hasRecord_after h).mp hafter with hbefore | ⟨row, hrow, hsame, -⟩
  · exact hbefore
  · obtain ⟨hmem, hnot⟩ := mem_missing.mp hrow
    have hupper : py.upper row.taskId = py.upper taskId := by
      rw [htrimmed row hmem, hkey] at hsame
      exact Option.some.inj hsame
    refine absurd ?_ hnot
    unfold Listed
    rw [hupper]
    exact hlisted

/-- A second run that writes nothing found every task. -/
theorem allListed_of_again (haccepts : tasks ≠ [] → s.base.Accepts)
    (h : (finalSession (runInitFeishu py never writeArgs tasks s)).log = s.log) :
    AllListed py tasks s.base.records := by
  obtain ⟨s', hrun⟩ : ∃ s', runInitFeishu py never writeArgs tasks s = .ok (0, s') :=
    runInit_succeeds haccepts
  obtain ⟨hwritten, -⟩ := runInit_written rfl hrun
  have hrows : buildFeishuRows py tasks writeArgs.taskFilter = tasks := rfl
  rw [hrows] at hwritten
  rw [hrun] at h
  have hlog := hwritten.log.symm.trans h
  rw [List.append_assoc, List.append_right_eq_self, List.append_eq_nil_iff, List.map_eq_nil_iff,
    List.map_eq_nil_iff] at hlog
  intro row hrow
  by_contra hnot
  rcases mem_missing_iff.mp (mem_missing.mpr ⟨hrow, hnot⟩) with ⟨i, hpair⟩ | hcreate
  · rw [hlog.1] at hpair
    cases hpair
  · rw [hlog.2] at hcreate
    cases hcreate

theorem onFirstPage_of_createdOnce (hlaws : UpperLaws py) (h : Written py tasks ⟨b, 0, []⟩ s')
    (haccepts : tasks ≠ [] → s'.base.Accepts) (honce : CreatedOnce py tasks b s') :
    OnFirstPage py tasks b := by
  have hall : AllListed py tasks s'.base.records :=
    allListed_of_again haccepts (honce.again never writeArgs)
  have htrimmed : ∀ row ∈ tasks, taskKey py row.taskId = some (py.upper row.taskId) := by
    intro row hrow
    obtain ⟨r, -, hkey⟩ := hall row hrow
    exact taskKey_self hlaws hkey
  refine ⟨htrimmed, fun row hrow => ⟨?_, fun hrecord => ?_⟩, (fits_iff h htrimmed).mpr hall⟩
  · exact listed_hasRecord h htrimmed (htrimmed row hrow) (honce.everyTask row hrow)
  · -- a task that the page does not show is written
    by_contra hnot
    obtain ⟨w, hw, heq⟩ := (mem_log_iff h rfl).mpr ⟨row, mem_missing.mpr ⟨hrow, hnot⟩, rfl⟩
    refine honce.noSecond w hw ?_
    rw [heq]
    exact hrecord

theorem createdOnce_of_onFirstPage (h : Written py tasks ⟨b, 0, []⟩ s')
    (hpage : OnFirstPage py tasks b) : CreatedOnce py tasks b s' where
  everyTask row hrow := by
    by_cases hlisted : Listed py b.records row.taskId
    · exact (hasRecord_after h).mpr (Or.inl ((hpage.listed row hrow).mp hlisted))
    · refine (hasRecord_after h).mpr (Or.inr ⟨row, mem_missing.mpr ⟨hrow, hlisted⟩, rfl, ?_⟩)
      rw [hpage.trimmed row hrow]
      exact Option.some_ne_none _
  noSecond w hw hrecord := by
    obtain ⟨row, hrow, heq⟩ := (mem_log_iff h rfl).mp ⟨w, hw, rfl⟩
    obtain ⟨hmem, hnot⟩ := mem_missing.mp hrow
    rw [← heq] at hrecord
    exact hnot ((hpage.listed row hmem).mpr hrecord)
  kept i r hr hblank := kept_of_not_blank h hr hblank
  again fails args := writes_nothing args ((fits_iff h hpage.trimmed).mp hpage.fits)

end

end InitFeishuLemmas

open InitFeishuLemmas

/-- A record with an id only. -/
def idRecord (text : String) : Record := fun name => if name = "Task ID" then .str text else .null

/-- A table with all row fields and records with these ids. -/
def tableOf (ids : List String) : Base where
  fields := feishuInitFieldDefinitions
  records := ids.map idRecord
  outside r hr name hname := by
    obtain ⟨text, -, rfl⟩ := List.mem_map.mp hr
    exact if_neg fun heq => hname (by rw [heq]; decide)

theorem tableOf_accepts (ids : List String) : (tableOf ids).Accepts := by
  have hnames : ∀ name ∈ feishuRowFields, name ∈ feishuInitFieldDefinitions.map Field.name := by
    decide
  exact hnames

def idRow (text : String) : Row := ⟨text, fun _ => .null⟩

theorem isOf_idRecord {text taskId : String} (h : IsOf py (idRecord text) taskId) :
    taskKey py text = taskKey py taskId := h.key

end InitFeishu
