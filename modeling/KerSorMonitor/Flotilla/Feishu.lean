import Mathlib.Algebra.Order.Ring.Rat
import KerSorMonitor.Lib.Keyed
import KerSorMonitor.Lib.Throttle
import KerSorMonitor.Flotilla.Observer

/-!
# The Feishu mirror (`flotilla/sinks/feishu.py`)

`FeishuSink.render` upserts one row for each task of a snapshot, at most once a minute for each task
of each table. Times are exact numbers of seconds. What `lark-cli` answers is chosen from outside.

A render that comes too early is dropped, and nothing sends it later: after the last render of a
task its row shows whatever was let through last.

Result: `mirror_iff`; `early_end_is_lost` is a task that ends half a minute after a sync.
-/

namespace Flotilla

namespace Feishu

open Keyed

/-! ## Rows -/

/-- `_FEISHU_STATUS_MAP`. -/
def feishuStatusMap : List (String × String) :=
  [("running", "running"), ("promoted", "promoted"), ("complete", "promoted"),
   ("done", "promoted"), ("stuck", "pending"), ("stalled", "pending"), ("failed", "crashed"),
   ("abandoned", "abandoned"), ("paused", "pending"), ("queued", "pending"),
   ("planned", "pending"), ("dispatching", "pending"), ("cancelled", "abandoned"),
   ("lost", "crashed")]

/-- `_feishu_status`. -/
def feishuStatus (s : Option String) : String :=
  (feishuStatusMap.lookup (pyLower ((nonEmpty? s).getD "pending"))).getD "pending"

/-- What the sink reads of a task view. -/
structure TaskRecord where
  id : TaskId
  name : String
  state : String
  workspacePath : Option String := none
  targetHost : Option String := none
  statusState : Option String := none
  rounds : Json := .int 0
  speedup : Json := .null
  group : Option String := none
  bottleneck : Option String := none
  feishuBase : Option String := none
  feishuTable : Option String := none

namespace TaskRecord

/-- `t.get("status_state") or t.get("state")`. -/
def shownState (t : TaskRecord) : Option String := (nonEmpty? t.statusState).or (some t.state)

/-- The status of the row of a task. -/
def status (t : TaskRecord) : String := feishuStatus t.shownState

/-- The group of a task that names none. -/
def defaultGroup (tid : TaskId) : String :=
  if "q-".toList.isPrefixOf tid.toList then "Quant"
  else if "l2-".toList.isPrefixOf tid.toList then "L2" else "FlashInfer"

/-- The speedup, if it is a number. -/
def shownSpeedup (t : TaskRecord) : Json :=
  match t.speedup with
  | .int n => .int n
  | .float f => .float f
  | .bool b => .bool b
  | _ => .int 0

/-- `_row`, restricted to `ROW_FIELDS`, which is all of it. -/
def row (t : TaskRecord) : JsonObj :=
  [("Task ID", .str t.id), ("Name", .str t.name), ("Status", .str t.status),
   ("Round", if t.rounds.truthy then t.rounds else .int 0),
   ("Speedup", t.shownSpeedup), ("Best Score", t.shownSpeedup),
   ("Group", .str ((nonEmpty? t.group).getD (defaultGroup t.id))),
   ("Bottleneck", .str ((nonEmpty? t.bottleneck).getD "Mixed")),
   ("Worker", .str ("host=" ++ (nonEmpty? t.targetHost).getD "local" ++
     match nonEmpty? t.workspacePath with
     | some ws => "  ws=" ++ ws
     | none => ""))]

end TaskRecord

/-! ## The sink -/

/-- `(base, table, task id)`. -/
structure SyncKey where
  base : String
  table : String
  task : TaskId
  deriving DecidableEq

/-- One `lark-cli base +record-upsert`. -/
structure Upsert where
  key : SyncKey
  row : JsonObj
  recordId : Option String

/-- What becomes of the call: it cannot be run or times out, it fails, or it replies, with the id of
the record if there is one in the reply. -/
inductive LarkResult
  | raised
  | failed (returncode : Int)
  | replied (recordId : Option String)

def LarkResult.isReply : LarkResult → Bool
  | .replied _ => true
  | _ => false

/-- A call that was made. -/
structure Sync where
  time : ℚ
  task : TaskRecord
  upsert : Upsert
  result : LarkResult

/-- `_LAST_SYNC`, `_rid`, and the calls so far. The record ids are kept by the key, of which the
source takes a digest. -/
structure Sink where
  lastSync : Dict SyncKey ℚ
  rid : Dict SyncKey String
  calls : List Sync

def Sink.initial : Sink := ⟨Table.empty, Table.empty, []⟩

/-- `_SYNC_INTERVAL`. -/
def syncInterval : ℚ := 60

/-- `FLOTILLA_FEISHU_BASE` and `FLOTILLA_FEISHU_TABLE`. -/
structure FeishuEnv where
  base : Option String := none
  table : Option String := none

/-- The table that a task is mirrored to. -/
def target? (env : FeishuEnv) (t : TaskRecord) : Option (String × String) :=
  match nonEmpty? t.workspacePath with
  | none => none
  | some _ =>
    match nonEmpty? ((nonEmpty? t.feishuBase).or env.base),
        nonEmpty? ((nonEmpty? t.feishuTable).or env.table) with
    | some base, some table => some (base, table)
    | _, _ => none

/-- The loop that fills `groups`. -/
def groupTasks (env : FeishuEnv) (tasks : List TaskRecord) :
    Dict (String × String) (List TaskRecord) :=
  tasks.foldl (fun groups t =>
    match target? env t with
    | none => groups
    | some target => Dict.set groups target ((Dict.get? groups target).getD [] ++ [t])) Table.empty

/-- One round of the inner loop: the throttle, and the call. `lark` answers it. -/
def syncTask (lark : List Sync → Upsert → LarkResult) (now : ℚ) (target : String × String)
    (t : TaskRecord) (s : Sink) : Sink :=
  if t.id = "" then s
  else
    let key : SyncKey := ⟨target.1, target.2, t.id⟩
    if now - (Dict.get? s.lastSync key).getD 0 < syncInterval then s
    else
      let upsert : Upsert := ⟨key, t.row, (nonEmpty? (Dict.get? s.rid key))⟩
      let result := lark s.calls upsert
      { lastSync := Dict.set s.lastSync key now
        rid :=
          match result with
          | .replied (some rid) => if rid = "" then s.rid else Dict.set s.rid key rid
          | _ => s.rid
        calls := s.calls ++ [⟨now, t, upsert, result⟩] }

/-- The tasks of a snapshot in the order in which they are synced, each with its table. -/
def entries (env : FeishuEnv) (tasks : List TaskRecord) : List ((String × String) × TaskRecord) :=
  (groupTasks env tasks).rows.flatMap fun group => group.2.map fun t => (group.1, t)

/-- `FeishuSink.render`, at time `now`. -/
def render (env : FeishuEnv) (lark : List Sync → Upsert → LarkResult) (s : Sink)
    (snapshot : ℚ × List TaskRecord) : Sink :=
  (entries env snapshot.2).foldl (fun s e => syncTask lark snapshot.1 e.1 e.2 s) s

/-- A sequence of renders. -/
def renders (env : FeishuEnv) (lark : List Sync → Upsert → LarkResult)
    (snapshots : List (ℚ × List TaskRecord)) : Sink :=
  snapshots.foldl (render env lark) .initial

/-- The rows that the table was given for a task, oldest first. -/
def Sink.upserted (s : Sink) (key : SyncKey) : List Sync :=
  s.calls.filter fun sync => sync.upsert.key = key && sync.result.isReply

/-- The status that the row of a task shows. -/
def Sink.shown (s : Sink) (key : SyncKey) : Option Json :=
  (s.upserted key).getLast?.bind fun sync => sync.upsert.row.get? "Status"

/-! ## What is rendered of one task -/

/-- The key that a task is synced under. -/
def key? (env : FeishuEnv) (t : TaskRecord) : Option SyncKey :=
  if t.id = "" then none
  else (target? env t).map fun target => ⟨target.1, target.2, t.id⟩

/-- What was rendered of a task, with the times. -/
def rendered (env : FeishuEnv) (key : SyncKey) (snapshots : List (ℚ × List TaskRecord)) :
    List (ℚ × TaskRecord) :=
  snapshots.flatMap fun snapshot =>
    (snapshot.2.filter fun t => key? env t = some key).map fun t => (snapshot.1, t)

/-- The throttle of one task. -/
def throttle (es : List (ℚ × TaskRecord)) : Throttle.State ℚ TaskRecord :=
  Throttle.run syncInterval es (.initial 0)

/-! ## One task in a render -/

namespace FeishuLemmas

variable {env : FeishuEnv} {lark : List Sync → Upsert → LarkResult} {key : SyncKey}

/-- Each group holds the tasks of its table, in order. -/
theorem get?_groupTasks (env : FeishuEnv) (target : String × String) (tasks : List TaskRecord)
    (groups : Dict (String × String) (List TaskRecord)) :
    (Dict.get? (tasks.foldl (fun groups t =>
      match target? env t with
      | none => groups
      | some target => Dict.set groups target ((Dict.get? groups target).getD [] ++ [t])) groups)
        target).getD [] =
      (Dict.get? groups target).getD [] ++ tasks.filter fun t => target? env t = some target := by
  induction tasks generalizing groups with
  | nil => simp
  | cons t tasks ih =>
    rw [List.foldl_cons, ih]
    cases ht : target? env t with
    | none => simp [ht]
    | some target' =>
      simp only [Dict.get?_set]
      by_cases heq : target = target'
      · subst heq
        simp [ht]
      · have hne : ¬ target' = target := fun h => heq h.symm
        simp [ht, heq, hne]

/-- The items under one key of a dictionary. -/
theorem filter_flatMap_rows {κ ν : Type} [DecidableEq κ] (k : κ) :
    ∀ (rows : List (κ × List ν)), (rows.map Prod.fst).Nodup →
      (rows.flatMap fun row => row.2.map fun v => (row.1, v)).filter (fun e => e.1 = k) =
        (((rows.find? fun row => row.1 = k).map Prod.snd).getD []).map fun v => (k, v)
  | [], _ => rfl
  | (k', vs) :: rows, hnd => by
    rw [List.map_cons, List.nodup_cons] at hnd
    have hrest := filter_flatMap_rows k rows hnd.2
    rw [List.flatMap_cons, List.filter_append, hrest, List.filter_map, List.find?_cons]
    by_cases hk : k' = k
    · subst hk
      have hnone : rows.find? (fun row => row.1 = k') = none := by
        refine List.find?_eq_none.mpr fun row hrow => ?_
        simp only [decide_eq_true_eq]
        exact fun he => hnd.1 (List.mem_map.mpr ⟨row, hrow, he⟩)
      simp [hnone, Function.comp_def]
    · simp [hk, Function.comp_def]

/-- The tasks of one table, in the order in which they are synced. -/
theorem filter_entries (env : FeishuEnv) (target : String × String) (tasks : List TaskRecord) :
    (entries env tasks).filter (fun e => e.1 = target) =
      (tasks.filter fun t => target? env t = some target).map fun t => (target, t) := by
  have hrows := filter_flatMap_rows target (groupTasks env tasks).rows (groupTasks env tasks).nodup
  have hget := get?_groupTasks env target tasks Table.empty
  refine hrows.trans ?_
  show ((Dict.get? (groupTasks env tasks) target).getD []).map _ = _
  unfold groupTasks
  rw [hget]
  rfl

/-- What the sink has kept of one task. -/
def project (key : SyncKey) (s : Sink) : Throttle.State ℚ TaskRecord where
  last := (Dict.get? s.lastSync key).getD 0
  shown := (s.calls.filter fun sync => sync.upsert.key = key).map fun sync => (sync.time, sync.task)

/-- The entry is synced under this key. -/
def IsEntry (key : SyncKey) (e : (String × String) × TaskRecord) : Prop :=
  e.1 = (key.base, key.table) ∧ e.2.id = key.task ∧ e.2.id ≠ ""

instance (key : SyncKey) : DecidablePred (IsEntry key) := fun _ =>
  inferInstanceAs (Decidable (_ ∧ _ ∧ _))

/-- A sync of the task goes through its throttle, and another one leaves it alone. -/
theorem project_syncTask (now : ℚ) (target : String × String) (t : TaskRecord) (s : Sink) :
    project key (syncTask lark now target t s) =
      if IsEntry key (target, t) then Throttle.offer syncInterval (project key s) (now, t)
      else project key s := by
  by_cases hid : t.id = ""
  · have hno : ¬ IsEntry key (target, t) := fun h => h.2.2 hid
    rw [if_neg hno]
    unfold syncTask
    rw [if_pos hid]
  · by_cases hkey : (⟨target.1, target.2, t.id⟩ : SyncKey) = key
    · have hyes : IsEntry key (target, t) := by
        subst hkey
        exact ⟨rfl, rfl, hid⟩
      rw [if_pos hyes]
      unfold syncTask Throttle.offer
      rw [if_neg hid]
      simp only [hkey]
      by_cases hearly : now - (Dict.get? s.lastSync key).getD 0 < syncInterval
      · have hearly' : now - (project key s).last < syncInterval := hearly
        rw [if_pos hearly, if_pos hearly']
      · have hearly' : ¬ now - (project key s).last < syncInterval := hearly
        rw [if_neg hearly, if_neg hearly']
        simp [project, Dict.get?_set]
    · have hno : ¬ IsEntry key (target, t) := by
        rintro ⟨htarget, htask, -⟩
        obtain ⟨base, table⟩ := target
        obtain ⟨hbase, htable⟩ := Prod.mk.inj htarget
        have hbase' : base = key.base := hbase
        have htable' : table = key.table := htable
        have htask' : t.id = key.task := htask
        exact hkey (by rw [hbase', htable', htask'])
      rw [if_neg hno]
      unfold syncTask
      rw [if_neg hid]
      dsimp only
      split
      · rfl
      · have hne : ¬ key = ⟨target.1, target.2, t.id⟩ := fun h => hkey h.symm
        simp [project, Dict.get?_set, hkey, hne]

theorem project_entries (now : ℚ) (es : List ((String × String) × TaskRecord)) (s : Sink) :
    project key (es.foldl (fun s e => syncTask lark now e.1 e.2 s) s) =
      Throttle.run syncInterval ((es.filter fun e => IsEntry key e).map fun e => (now, e.2))
        (project key s) := by
  induction es generalizing s with
  | nil => rfl
  | cons e es ih =>
    rw [List.foldl_cons, ih, project_syncTask]
    by_cases he : IsEntry key e
    · simp [he, Throttle.run]
    · simp [he]

theorem key?_eq_some {t : TaskRecord} :
    key? env t = some key ↔
      (t.id = key.task ∧ t.id ≠ "") ∧ target? env t = some (key.base, key.table) := by
  unfold key?
  by_cases hempty : t.id = ""
  · simp [hempty]
  · rw [if_neg hempty, Option.map_eq_some_iff]
    constructor
    · rintro ⟨target, htarget, rfl⟩
      exact ⟨⟨rfl, hempty⟩, htarget⟩
    · rintro ⟨⟨hid, -⟩, htarget⟩
      exact ⟨_, htarget, by rw [hid]⟩

/-- The entries of a task are its occurrences in the snapshot. -/
theorem filter_isEntry (env : FeishuEnv) (key : SyncKey) (tasks : List TaskRecord) :
    ((entries env tasks).filter fun e => IsEntry key e).map Prod.snd =
      tasks.filter fun t => key? env t = some key := by
  have hsplit : (entries env tasks).filter (fun e => IsEntry key e) =
      ((entries env tasks).filter fun e => e.1 = (key.base, key.table)).filter fun e =>
        e.2.id = key.task ∧ e.2.id ≠ "" := by
    rw [List.filter_filter]
    refine List.filter_congr fun e _ => ?_
    rw [← Bool.decide_and]
    exact decide_eq_decide.mpr and_comm
  rw [hsplit, filter_entries, List.filter_map, List.map_map, List.filter_filter]
  have hid : (Prod.snd ∘ fun t : TaskRecord => ((key.base, key.table), t)) = id := rfl
  rw [hid, List.map_id]
  refine List.filter_congr fun t _ => ?_
  rw [Function.comp_apply, ← Bool.decide_and]
  exact decide_eq_decide.mpr key?_eq_some.symm

/-- A render passes what it has of the task through the throttle of the task. -/
theorem project_render (s : Sink) (snapshot : ℚ × List TaskRecord) :
    project key (render env lark s snapshot) =
      Throttle.run syncInterval
        ((snapshot.2.filter fun t => key? env t = some key).map fun t => (snapshot.1, t))
        (project key s) := by
  unfold render
  rw [project_entries, ← filter_isEntry, List.map_map]
  rfl

/-- What the sink has kept of a task after a sequence of renders. -/
theorem project_renders (env : FeishuEnv) (lark : List Sync → Upsert → LarkResult) (key : SyncKey)
    (snapshots : List (ℚ × List TaskRecord)) :
    project key (renders env lark snapshots) = throttle (rendered env key snapshots) := by
  have hgeneral : ∀ (snapshots : List (ℚ × List TaskRecord)) (s : Sink),
      project key (snapshots.foldl (render env lark) s) =
        Throttle.run syncInterval (rendered env key snapshots) (project key s) := by
    intro snapshots
    induction snapshots with
    | nil => exact fun s => rfl
    | cons snapshot snapshots ih =>
      intro s
      rw [List.foldl_cons, ih, project_render, ← Throttle.run_append]
      rfl
  exact hgeneral snapshots .initial

/-- Every call upserts the row of its task. -/
def RowsOwn (s : Sink) : Prop := ∀ sync ∈ s.calls, sync.upsert.row = sync.task.row

theorem rowsOwn_syncTask {s : Sink} (h : RowsOwn s) (now : ℚ) (target : String × String)
    (t : TaskRecord) : RowsOwn (syncTask lark now target t s) := by
  unfold syncTask
  split
  · exact h
  · dsimp only
    split
    · exact h
    · intro sync hmem
      rcases List.mem_append.mp hmem with hold | hnew
      · exact h sync hold
      · rw [List.mem_singleton.mp hnew]

theorem rowsOwn_renders (snapshots : List (ℚ × List TaskRecord)) :
    RowsOwn (renders env lark snapshots) := by
  refine List.foldlRecOn snapshots (render env lark) (fun _ h => absurd h List.not_mem_nil) ?_
  intro s h snapshot _
  exact List.foldlRecOn _ _ h fun s h e _ => rowsOwn_syncTask h _ _ _

end FeishuLemmas

open FeishuLemmas in
/-- If every call succeeds, the rows that a task was given are at least a minute apart, and after the
last render of the task its row shows the status of that render iff the render came at least a
minute after the last sync, or the sync showed that status already. -/
theorem mirror_iff (env : FeishuEnv) (lark : List Sync → Upsert → LarkResult)
    (snapshots : List (ℚ × List TaskRecord)) (key : SyncKey)
    (hsucceeds : ∀ sync ∈ (renders env lark snapshots).calls, sync.result.isReply = true) :
    (((renders env lark snapshots).upserted key).Pairwise fun a b => a.time + 60 ≤ b.time) ∧
    ∀ es now t, rendered env key snapshots = es ++ [(now, t)] →
      ((renders env lark snapshots).shown key = some (.str t.status) ↔
        60 ≤ now - (throttle es).last ∨
          (throttle es).current.map TaskRecord.status = some t.status) := by
  have hall : (renders env lark snapshots).upserted key =
      (renders env lark snapshots).calls.filter fun sync => sync.upsert.key = key := by
    refine List.filter_congr fun sync hmem => ?_
    rw [hsucceeds sync hmem, Bool.and_true]
  have hproject := project_renders env lark key snapshots
  have hshown : ((renders env lark snapshots).upserted key).map (fun sync => (sync.time, sync.task)) =
      (throttle (rendered env key snapshots)).shown := by
    rw [hall, ← hproject]
    rfl
  constructor
  · have hspaced := (Throttle.spaced_run (by decide : (0 : ℚ) ≤ syncInterval)
      (Throttle.spaced_initial syncInterval (0 : ℚ)) (rendered env key snapshots)).apart
    have hmap : (((renders env lark snapshots).upserted key).map
        fun sync => (sync.time, sync.task)).Pairwise fun a b => a.1 + syncInterval ≤ b.1 := by
      rw [hshown]
      exact hspaced
    exact List.pairwise_map.mp hmap
  · intro es now t hes
    have hcurrent : (renders env lark snapshots).shown key =
        ((throttle (rendered env key snapshots)).current.map TaskRecord.status).map Json.str := by
      unfold Throttle.State.current Sink.shown
      rw [← hshown, List.getLast?_map]
      cases hlast : ((renders env lark snapshots).upserted key).getLast? with
      | none => rfl
      | some sync =>
        have hmem := (List.mem_filter.mp (List.mem_of_getLast? hlast)).1
        simp only [Option.bind_some, Option.map_some, rowsOwn_renders snapshots sync hmem]
        rfl
    rw [hcurrent, hes]
    have hiff := Throttle.current_run_concat_iff TaskRecord.status syncInterval es (now, t)
      (.initial 0)
    refine Iff.trans ⟨fun h => ?_, fun h => by rw [throttle, h]; rfl⟩ hiff
    obtain ⟨status, hstatus, heq⟩ := Option.map_eq_some_iff.mp h
    rw [← throttle, hstatus, Json.str.inj heq]

/-- The answer of `lark-cli` to a call that succeeds, with no record id in it. -/
private def upsertedOk : List Sync → Upsert → LarkResult := fun _ _ => .replied none

/-- A task with a workspace. -/
private def mirrored (state : String) : TaskRecord :=
  { id := "t", name := "n", state, workspacePath := some "/ws/t" }

/-- A task that ends half a minute after a sync of it. -/
private def earlyEnd : List (ℚ × List TaskRecord) :=
  [(100, [mirrored "RUNNING"]), (130, [mirrored "DONE"])]

/-- The last render of a task that ends half a minute after a sync is dropped: it shows as running. -/
theorem early_end_is_lost :
    (earlyEnd.map Prod.fst).Pairwise (· ≤ ·) ∧
      (∀ sync ∈ (renders ⟨some "base", some "table"⟩ upsertedOk earlyEnd).calls,
        sync.result.isReply = true) ∧
      rendered ⟨some "base", some "table"⟩ ⟨"base", "table", "t"⟩ earlyEnd =
        [(100, mirrored "RUNNING")] ++ [(130, mirrored "DONE")] ∧
      (renders ⟨some "base", some "table"⟩ upsertedOk earlyEnd).shown ⟨"base", "table", "t"⟩ ≠
        some (.str (mirrored "DONE").status) := by
  refine ⟨by decide, List.all_eq_true.mp (by decide +kernel), rfl, fun h => ?_⟩
  have hstatus : ((renders ⟨some "base", some "table"⟩ upsertedOk earlyEnd).shown
      ⟨"base", "table", "t"⟩).bind Json.str? = some "running" := by decide +kernel
  rw [h] at hstatus
  have hdone : (mirrored "DONE").status = "promoted" := by decide +kernel
  rw [hdone] at hstatus
  exact absurd hstatus (by decide)

/-- A task that ends a minute and a half after a sync. -/
private def lateEnd : List (ℚ × List TaskRecord) :=
  [(100, [mirrored "RUNNING"]), (190, [mirrored "DONE"])]

theorem mirror_iff_late_end :
    ((renders ⟨some "base", some "table"⟩ upsertedOk lateEnd).upserted
        ⟨"base", "table", "t"⟩).Pairwise (fun a b => a.time + 60 ≤ b.time) ∧
    ∀ es now t, rendered ⟨some "base", some "table"⟩ ⟨"base", "table", "t"⟩ lateEnd =
        es ++ [(now, t)] →
      ((renders ⟨some "base", some "table"⟩ upsertedOk lateEnd).shown ⟨"base", "table", "t"⟩ =
          some (.str t.status) ↔
        60 ≤ now - (throttle es).last ∨
          (throttle es).current.map TaskRecord.status = some t.status) :=
  mirror_iff ⟨some "base", some "table"⟩ upsertedOk lateEnd ⟨"base", "table", "t"⟩
    (List.all_eq_true.mp (by decide +kernel))

end Feishu

end Flotilla
