import KerSorMonitor.Lib.Upserts
import KerSorMonitor.Scripts.Metrics
import Mathlib.Data.List.DropRight

/-!
# What a legacy row does to a row (`merge_legacy_feishu_rows` in `scripts/monitor_state.py`)

The rows that go to the Feishu table are dictionaries. A legacy row replaces the row of its task
while that one only waits, and fills the metrics that are empty in any other.

Results: `mergeInto_live`, what a run of legacy rows makes of a live row; `mergeInto_waiting`, that
a run of waiting rows is decided by the last of them, up to the task name; `mergeInto_again`, what
the same run does to its own result.
-/

namespace Scripts

open Flotilla

/-! ## Fields -/

/-- `FEISHU_TASK_NAME_FIELD`. -/
def taskNameField : String := "Task Name"

/-- `FEISHU_METRIC_FIELDS`. -/
def metricFields : List String := ["Speedup", "Latency (ms)", "MFU"]

/-- `replaceable_primary_statuses`. -/
def replaceableStatuses : List String := ["no_workspace", "pending", "queued", "unknown"]

/-- `str(row.get("Task ID", ""))`. -/
def taskIdText (row : JsonObj) : String := (getD row "Task ID" (.str "")).pyStr

/-- `str(row.get("_raw_status") or row.get("Status") or "")`. -/
def rawStatus (row : JsonObj) : String :=
  (pyOr (pyOr (getD row "_raw_status" .null) (getD row "Status" .null)) (.str "")).pyStr

/-- The row is not merely waiting. -/
def IsLive (row : JsonObj) : Prop := rawStatus row ∉ replaceableStatuses

instance (row : JsonObj) : Decidable (IsLive row) :=
  inferInstanceAs (Decidable (rawStatus row ∉ replaceableStatuses))

/-- `value in (None, "")`. -/
def isBlank : Json → Bool
  | .null => true
  | .str s => s = ""
  | _ => false

/-- The row is given the name of the row that is there: it has none, or one that starts with its
legacy id. -/
def takesName (existing row : JsonObj) (legacyTaskId : String) : Bool :=
  (getD existing taskNameField .null).truthy &&
    (!(getD row taskNameField .null).truthy ||
      (legacyTaskId ++ "_").toList.isPrefixOf
        (getD row taskNameField (.str "")).pyStr.toList)

/-- The row with the name that it gets. -/
def withName (existing row : JsonObj) (legacyTaskId : String) : JsonObj :=
  if takesName existing row legacyTaskId then
    row.set taskNameField (getD existing taskNameField .null)
  else row

/-- One metric, if it is empty and the legacy row has a value. -/
def fillMetric (row existing : JsonObj) (metricName : String) : JsonObj :=
  if isBlank (getD existing metricName .null) && !isBlank (getD row metricName .null) then
    existing.set metricName (getD row metricName .null)
  else existing

/-- The loop over `FEISHU_METRIC_FIELDS`. -/
def fillMetrics (existing row : JsonObj) : JsonObj := metricFields.foldl (fillMetric row) existing

/-- A legacy row, and the ids that it gets. -/
structure LegacyEntry where
  taskId : String
  legacyTaskId : String
  legacyRow : JsonObj

/-- `dict(legacy_row)` with its ids. -/
def LegacyEntry.row (e : LegacyEntry) : JsonObj :=
  (e.legacyRow.set "Task ID" (.str e.taskId)).set "_legacy_task_id" (.str e.legacyTaskId)

/-- What becomes of the row of the task. -/
def mergeRow (e : LegacyEntry) : Option JsonObj → JsonObj
  | none => e.row
  | some existing =>
    let row := withName existing e.row e.legacyTaskId
    if IsLive existing then fillMetrics existing row else row

/-- What a run of legacy rows makes of the row of the task. -/
def mergeInto (o : Option JsonObj) (es : List LegacyEntry) : Option JsonObj :=
  es.foldl (fun o e => some (mergeRow e o)) o

/-- The first value of the field among the legacy rows that is not empty. -/
def firstValue (rows : List JsonObj) (field : String) : Option Json :=
  (rows.map fun row => getD row field .null).find? fun v => !isBlank v

/-- `row'` is `row`, but empty metrics have the first value of a legacy row. -/
def Filled (legacyRows : List JsonObj) (row row' : JsonObj) : Prop :=
  ∀ field, row'.get? field =
    if field ∈ metricFields ∧ isBlank (getD row field .null) then
      (firstValue legacyRows field).or (row.get? field)
    else row.get? field

/-- The same fields with the same values. -/
def SameFields (row row' : JsonObj) : Prop := ∀ field, row'.get? field = row.get? field

namespace LegacyRowLemmas

/-! ## Reading -/

theorem getD_congr {row row' : JsonObj} {field : String} (h : row'.get? field = row.get? field)
    (dflt : Json) : getD row' field dflt = getD row field dflt := by
  rw [getD, getD, h]

theorem rawStatus_congr {row row' : JsonObj}
    (hraw : row'.get? "_raw_status" = row.get? "_raw_status")
    (hstatus : row'.get? "Status" = row.get? "Status") : rawStatus row' = rawStatus row := by
  rw [rawStatus, rawStatus, getD_congr hraw, getD_congr hstatus]

theorem isLive_congr {row row' : JsonObj}
    (hraw : row'.get? "_raw_status" = row.get? "_raw_status")
    (hstatus : row'.get? "Status" = row.get? "Status") : IsLive row' ↔ IsLive row := by
  rw [IsLive, IsLive, rawStatus_congr hraw hstatus]

theorem row_get? (e : LegacyEntry) {field : String} (hid : field ≠ "Task ID")
    (hlegacy : field ≠ "_legacy_task_id") : e.row.get? field = e.legacyRow.get? field := by
  rw [LegacyEntry.row, JsonObj.get?_set_of_ne _ _ _ hlegacy, JsonObj.get?_set_of_ne _ _ _ hid]

theorem taskIdText_row (e : LegacyEntry) : taskIdText e.row = e.taskId := by
  rw [taskIdText, getD, LegacyEntry.row, JsonObj.get?_set_of_ne _ _ _ (by decide),
    JsonObj.get?_set_self]
  rfl

theorem withName_get? {existing row : JsonObj} {legacyTaskId field : String}
    (h : field ≠ taskNameField) :
    (withName existing row legacyTaskId).get? field = row.get? field := by
  rw [withName]
  split
  · exact JsonObj.get?_set_of_ne _ _ _ h
  · rfl

/-! ## Live rows -/

theorem fillMetric_get?_of_ne {existing row : JsonObj} {metricName field : String}
    (h : field ≠ metricName) :
    (fillMetric row existing metricName).get? field = existing.get? field := by
  rw [fillMetric]
  split
  · exact JsonObj.get?_set_of_ne _ _ _ h
  · rfl

theorem fillMetric_get?_self (existing row : JsonObj) (metricName : String) :
    (fillMetric row existing metricName).get? metricName =
      if isBlank (getD existing metricName .null) && !isBlank (getD row metricName .null) then
        some (getD row metricName .null)
      else existing.get? metricName := by
  rw [fillMetric]
  split
  · exact JsonObj.get?_set_self _ _ _
  · rfl

/-- Each of the metrics is filled by itself. -/
theorem foldl_fillMetric_get? {metrics : List String} (hnodup : metrics.Nodup)
    (existing row : JsonObj) (field : String) :
    (metrics.foldl (fillMetric row) existing).get? field =
      if field ∈ metrics ∧
          (isBlank (getD existing field .null) && !isBlank (getD row field .null)) = true then
        some (getD row field .null)
      else existing.get? field := by
  induction metrics generalizing existing with
  | nil => exact (if_neg fun h => by cases h.1).symm
  | cons m metrics ih =>
    obtain ⟨hm, hrest⟩ := List.nodup_cons.mp hnodup
    rw [List.foldl_cons, ih hrest]
    by_cases hfield : field = m
    · subst hfield
      rw [if_neg fun h => hm h.1, fillMetric_get?_self]
      exact if_congr (by simp) rfl rfl
    · have hsame : (fillMetric row existing m).get? field = existing.get? field :=
        fillMetric_get?_of_ne hfield
      rw [getD_congr hsame, hsame]
      exact if_congr (by simp [hfield]) rfl rfl

theorem fillMetrics_get? (existing row : JsonObj) (field : String) :
    (fillMetrics existing row).get? field =
      if field ∈ metricFields ∧
          (isBlank (getD existing field .null) && !isBlank (getD row field .null)) = true then
        some (getD row field .null)
      else existing.get? field :=
  foldl_fillMetric_get? (by decide) existing row field

theorem fillMetrics_get?_of_not_mem {existing row : JsonObj} {field : String}
    (h : field ∉ metricFields) : (fillMetrics existing row).get? field = existing.get? field := by
  rw [fillMetrics_get?, if_neg fun hmem => h hmem.1]

theorem filled_nil (row : JsonObj) : Filled [] row row := by
  intro field
  exact (ite_self _).symm

theorem firstValue_cons (row : JsonObj) (rows : List JsonObj) (field : String) :
    firstValue (row :: rows) field =
      if isBlank (getD row field .null) then firstValue rows field
      else some (getD row field .null) := by
  rw [firstValue, List.map_cons, List.find?_cons]
  cases hblank : isBlank (getD row field .null) <;> rfl

/-- The next legacy row fills what is empty, the others what it leaves empty. -/
theorem filled_cons {legacyRow existing row row' : JsonObj} {rows : List JsonObj}
    (hmetric : ∀ field ∈ metricFields, row.get? field = legacyRow.get? field)
    (h : Filled rows (fillMetrics existing row) row') :
    Filled (legacyRow :: rows) existing row' := by
  intro field
  rw [h field]
  by_cases hmem : field ∈ metricFields
  · have hget := fillMetrics_get? existing row field
    simp only [hmem, true_and, firstValue_cons, getD_congr (hmetric field hmem)] at hget ⊢
    cases hold : isBlank (getD existing field .null) with
    | false =>
      rw [hold] at hget
      rw [getD_congr hget, hold, hget]
      rfl
    | true =>
      rw [hold] at hget
      cases hnew : isBlank (getD legacyRow field .null) with
      | false =>
        rw [hnew] at hget
        have hvalue : getD (fillMetrics existing row) field .null
            = getD legacyRow field .null := by
          rw [getD, hget]
          rfl
        rw [hvalue, hnew, hget]
        rfl
      | true =>
        rw [hnew] at hget
        rw [getD_congr hget, hold, hget]
        rfl
  · rw [if_neg fun hx => hmem hx.1, if_neg fun hx => hmem hx.1, fillMetrics_get?_of_not_mem hmem]

theorem isLive_fillMetrics {existing row : JsonObj} :
    IsLive (fillMetrics existing row) ↔ IsLive existing :=
  isLive_congr (fillMetrics_get?_of_not_mem (by decide)) (fillMetrics_get?_of_not_mem (by decide))

theorem isLive_withName_row {existing : JsonObj} {e : LegacyEntry} :
    IsLive (withName existing e.row e.legacyTaskId) ↔ IsLive e.legacyRow :=
  (isLive_congr (withName_get? (by decide)) (withName_get? (by decide))).trans
    (isLive_congr (row_get? e (by decide) (by decide)) (row_get? e (by decide) (by decide)))

theorem mergeRow_of_live {existing : JsonObj} (h : IsLive existing) (e : LegacyEntry) :
    mergeRow e (some existing)
      = fillMetrics existing (withName existing e.row e.legacyTaskId) := if_pos h

theorem mergeRow_of_waiting {existing : JsonObj} (h : ¬ IsLive existing) (e : LegacyEntry) :
    mergeRow e (some existing) = withName existing e.row e.legacyTaskId := if_neg h

theorem withName_row_metric {existing : JsonObj} (e : LegacyEntry) :
    ∀ field ∈ metricFields,
      (withName existing e.row e.legacyTaskId).get? field = e.legacyRow.get? field := by
  intro field hfield
  have hname : field ≠ taskNameField := ne_of_mem_of_not_mem hfield (by decide)
  rw [withName_get? hname, row_get? e (ne_of_mem_of_not_mem hfield (by decide))
    (ne_of_mem_of_not_mem hfield (by decide))]

/-- A live row stays, with its empty metrics filled. -/
theorem mergeInto_live {existing : JsonObj} (h : IsLive existing) (es : List LegacyEntry) :
    ∃ row, mergeInto (some existing) es = some row ∧
      Filled (es.map LegacyEntry.legacyRow) existing row := by
  induction es generalizing existing with
  | nil => exact ⟨existing, rfl, filled_nil existing⟩
  | cons e es ih =>
    have hstep := mergeRow_of_live h e
    have hlive : IsLive (mergeRow e (some existing)) := hstep ▸ isLive_fillMetrics.mpr h
    obtain ⟨row, hrow, hfilled⟩ := ih hlive
    rw [hstep] at hrow hfilled
    refine ⟨row, ?_, filled_cons (withName_row_metric e) hfilled⟩
    rw [mergeInto, List.foldl_cons, hstep]
    exact hrow

/-! ## Waiting rows -/

/-- A run that ends in a waiting row has met nothing else. -/
theorem waiting_of_mergeInto {o : Option JsonObj} {es : List LegacyEntry} {row : JsonObj}
    (h : mergeInto o es = some row) (hrow : ¬ IsLive row) :
    (∀ existing, o = some existing → ¬ IsLive existing) ∧
      ∀ e ∈ es, ¬ IsLive e.legacyRow := by
  induction es generalizing o with
  | nil =>
    refine ⟨fun existing ho => ?_, fun e he => by cases he⟩
    cases ho.symm.trans h
    exact hrow
  | cons e es ih =>
    obtain ⟨hfirst, hrest⟩ := ih (o := some (mergeRow e o)) h
    have hmerged := hfirst _ rfl
    cases o with
    | none =>
      refine ⟨fun existing ho => (by cases ho), List.forall_mem_cons.mpr ⟨?_, hrest⟩⟩
      rwa [mergeRow, isLive_congr (row_get? e (by decide) (by decide))
        (row_get? e (by decide) (by decide))] at hmerged
    | some existing =>
      have hexisting : ¬ IsLive existing := by
        intro hlive
        rw [mergeRow_of_live hlive] at hmerged
        exact hmerged (isLive_fillMetrics.mpr hlive)
      rw [mergeRow_of_waiting hexisting] at hmerged
      refine ⟨fun existing' ho => (by cases ho; exact hexisting),
        List.forall_mem_cons.mpr ⟨fun he => hmerged (isLive_withName_row.mpr he), hrest⟩⟩

/-- The legacy row takes over a name that is there. -/
def Inherits (e : LegacyEntry) : Prop :=
  (getD e.legacyRow taskNameField .null).truthy = false ∨
    (e.legacyTaskId ++ "_").toList.isPrefixOf
      (getD e.legacyRow taskNameField (.str "")).pyStr.toList = true

instance (e : LegacyEntry) : Decidable (Inherits e) :=
  inferInstanceAs (Decidable (_ = false ∨ _ = true))

/-- There is a name. -/
def Named (name : Option Json) : Prop := (name.getD .null).truthy = true

instance (name : Option Json) : Decidable (Named name) :=
  inferInstanceAs (Decidable (_ = true))

/-- What a legacy row that replaces another makes of the name. -/
def nameStep (name : Option Json) (e : LegacyEntry) : Option Json :=
  if Named name ∧ Inherits e then name else e.legacyRow.get? taskNameField

theorem takesName_row {existing : JsonObj} {e : LegacyEntry} :
    takesName existing e.row e.legacyTaskId = true ↔
      Named (existing.get? taskNameField) ∧ Inherits e := by
  have hname : e.row.get? taskNameField = e.legacyRow.get? taskNameField :=
    row_get? e (by decide) (by decide)
  rw [takesName, getD_congr hname, getD_congr hname, Bool.and_eq_true, Bool.or_eq_true,
    Bool.not_eq_true']
  rfl

theorem withName_name {existing : JsonObj} {e : LegacyEntry} :
    (withName existing e.row e.legacyTaskId).get? taskNameField
      = nameStep (existing.get? taskNameField) e := by
  rw [withName, nameStep]
  by_cases h : Named (existing.get? taskNameField) ∧ Inherits e
  · rw [if_pos (takesName_row.mpr h), if_pos h, JsonObj.get?_set_self, getD]
    cases hget : existing.get? taskNameField with
    | none =>
      have hnamed := h.1
      rw [hget] at hnamed
      cases hnamed
    | some v => rfl
  · rw [if_neg fun ht => h (takesName_row.mp ht), if_neg h,
      row_get? e (by decide) (by decide)]

/-- A run of waiting rows: the fields are those of the last legacy row, but the name is handed
on from row to row. -/
theorem mergeInto_waiting {existing : JsonObj} {es : List LegacyEntry}
    (hexisting : ¬ IsLive existing) (hes : ∀ e ∈ es, ¬ IsLive e.legacyRow) :
    ∃ row, mergeInto (some existing) es = some row ∧
      row.get? taskNameField = es.foldl nameStep (existing.get? taskNameField) ∧
      ∀ field, field ≠ taskNameField →
        row.get? field = ((es.getLast?.map LegacyEntry.row).getD existing).get? field := by
  induction es generalizing existing with
  | nil => exact ⟨existing, rfl, rfl, fun field _ => rfl⟩
  | cons e es ih =>
    have hstep := mergeRow_of_waiting hexisting e
    obtain ⟨he, hrest⟩ := List.forall_mem_cons.mp hes
    obtain ⟨row, hrow, hname, hfields⟩ :=
      ih (hstep ▸ fun hlive => he (isLive_withName_row.mp hlive)) hrest
    refine ⟨row, hrow, ?_, fun field hfield => ?_⟩
    · rw [hname, hstep, withName_name]
      rfl
    · rw [hfields field hfield, List.getLast?_cons]
      cases es.getLast? with
      | none =>
        rw [hstep]
        exact withName_get? hfield
      | some last => rfl

theorem nameStep_of_not_named {name : Option Json} (h : ¬ Named name) (e : LegacyEntry) :
    nameStep name e = e.legacyRow.get? taskNameField := if_neg fun hn => h hn.1

theorem foldl_nameStep_of_named {name : Option Json} (h : Named name) {es : List LegacyEntry}
    (hes : ∀ e ∈ es, Inherits e) : es.foldl nameStep name = name := by
  induction es with
  | nil => rfl
  | cons e es ih =>
    obtain ⟨he, hrest⟩ := List.forall_mem_cons.mp hes
    have hstep : nameStep name e = name := if_pos ⟨h, he⟩
    rw [List.foldl_cons, hstep, ih hrest]

/-- After a legacy row that keeps its own name, it does not matter what was there. -/
theorem foldl_nameStep_eq {es : List LegacyEntry} (h : ∃ e ∈ es, ¬ Inherits e)
    (name name' : Option Json) : es.foldl nameStep name = es.foldl nameStep name' := by
  obtain ⟨e, he, hown⟩ := h
  obtain ⟨as, bs, rfl⟩ := List.append_of_mem he
  have hstep (n : Option Json) : nameStep n e = e.legacyRow.get? taskNameField :=
    if_neg fun hn => hown hn.2
  rw [List.foldl_append, List.foldl_append, List.foldl_cons, List.foldl_cons, hstep, hstep]

/-- A name that the same rows have handed on is handed on again. -/
theorem foldl_nameStep_again (es : List LegacyEntry) (name : Option Json) :
    es.foldl nameStep (es.foldl nameStep name) = es.foldl nameStep name := by
  by_cases hown : ∃ e ∈ es, ¬ Inherits e
  · exact foldl_nameStep_eq hown _ _
  · have hall : ∀ e ∈ es, Inherits e := fun e he => by_contra fun h => hown ⟨e, he, h⟩
    by_cases hresult : Named (es.foldl nameStep name)
    · exact foldl_nameStep_of_named hresult hall
    · have hname : ¬ Named name := by
        intro h
        rw [foldl_nameStep_of_named h hall] at hresult
        exact hresult h
      -- neither name counts for the first row, so both runs are alike after it
      cases es with
      | nil => rfl
      | cons e es =>
        rw [List.foldl_cons, nameStep_of_not_named hresult]
        rw [List.foldl_cons, nameStep_of_not_named hname]

/-! ## The same rows again -/

/-- The entry with another task id. -/
def withTaskId (taskId : String) (e : LegacyEntry) : LegacyEntry := { e with taskId := taskId }

theorem foldl_nameStep_withTaskId (taskId : String) (es : List LegacyEntry)
    (name : Option Json) : (es.map (withTaskId taskId)).foldl nameStep name
      = es.foldl nameStep name := by
  rw [List.foldl_map]
  rfl

/-- What the run of waiting rows makes of no row, or of a waiting one. -/
theorem mergeInto_of_waiting {o : Option JsonObj} {e : LegacyEntry} {es : List LegacyEntry}
    (ho : ∀ existing, o = some existing → ¬ IsLive existing)
    (hes : ∀ e' ∈ e :: es, ¬ IsLive e'.legacyRow) :
    ∃ row, mergeInto o (e :: es) = some row ∧
      row.get? taskNameField
        = (e :: es).foldl nameStep (o.bind fun existing => existing.get? taskNameField) ∧
      ∀ field, field ≠ taskNameField → row.get? field = (es.getLast?.getD e).row.get? field := by
  cases o with
  | none =>
    obtain ⟨he, hrest⟩ := List.forall_mem_cons.mp hes
    have hrow : ¬ IsLive e.row := fun hlive => he ((isLive_congr
      (row_get? e (by decide) (by decide)) (row_get? e (by decide) (by decide))).mp hlive)
    obtain ⟨row, hmerged, hname, hfields⟩ := mergeInto_waiting hrow hrest
    refine ⟨row, hmerged, ?_, fun field hfield => ?_⟩
    · rw [hname, row_get? e (by decide) (by decide), List.foldl_cons,
        nameStep_of_not_named fun hnamed => by cases hnamed]
    · rw [hfields field hfield]
      cases es.getLast? <;> rfl
  | some existing =>
    obtain ⟨row, hmerged, hname, hfields⟩ := mergeInto_waiting (ho existing rfl) hes
    refine ⟨row, hmerged, hname, fun field hfield => ?_⟩
    rw [hfields field hfield, List.getLast?_cons]
    rfl

end LegacyRowLemmas

open LegacyRowLemmas

/-- The rows that made a row make it again, up to empty metrics of a live row: those take a value
that was lost with a legacy row that was replaced. -/
theorem mergeInto_again {o : Option JsonObj} {es : List LegacyEntry} {row : JsonObj}
    (h : mergeInto o es = some row) :
    ∃ row', mergeInto (some row) (es.map (withTaskId (taskIdText row))) = some row' ∧
      (IsLive row → Filled (es.map LegacyEntry.legacyRow) row row') ∧
      (¬ IsLive row → SameFields row row') := by
  by_cases hlive : IsLive row
  · obtain ⟨row', hrow', hfilled⟩ :=
      mergeInto_live hlive (es.map (withTaskId (taskIdText row)))
    rw [List.map_map] at hfilled
    exact ⟨row', hrow', fun _ => hfilled, fun hwaiting => absurd hlive hwaiting⟩
  · refine (?_ : ∃ row', _ ∧ SameFields row row').imp fun row' hrow' =>
      ⟨hrow'.1, fun h => absurd h hlive, fun _ => hrow'.2⟩
    obtain ⟨ho, hes⟩ := waiting_of_mergeInto h hlive
    cases es with
    | nil => exact ⟨row, rfl, fun field => rfl⟩
    | cons e es =>
      obtain ⟨row₁, hrow₁, hname₁, hfields₁⟩ := mergeInto_of_waiting ho hes
      cases h.symm.trans hrow₁
      have hlast : taskIdText row = (es.getLast?.getD e).taskId := by
        rw [← taskIdText_row, taskIdText, taskIdText, getD_congr (hfields₁ _ (by decide))]
      have hes' : ∀ e' ∈ (e :: es).map (withTaskId (taskIdText row)), ¬ IsLive e'.legacyRow := by
        intro e' he'
        obtain ⟨e₂, he₂, rfl⟩ := List.mem_map.mp he'
        exact hes e₂ he₂
      obtain ⟨row', hrow', hname, hfields⟩ := mergeInto_waiting hlive hes'
      refine ⟨row', hrow', fun field => ?_⟩
      by_cases hfield : field = taskNameField
      · rw [hfield, hname, foldl_nameStep_withTaskId, hname₁, foldl_nameStep_again]
      · -- the last row has the task id that it was given before
        have hsame : withTaskId (taskIdText row) (es.getLast?.getD e) = es.getLast?.getD e := by
          rw [hlast]
          rfl
        rw [hfields field hfield, hfields₁ field hfield, List.getLast?_map, List.getLast?_cons,
          Option.map_some, hsame]
        rfl

end Scripts
