import KerSorMonitor.Scripts.LegacyRows
import KerSorMonitor.Lib.Ordered

/-!
# Merging legacy rows (`merge_legacy_feishu_rows` in `scripts/monitor_state.py`)

Rows are dictionaries that the caller shares with others, and the merge changes dictionaries in
place: the model has a heap of them. A legacy row belongs to the primary row with its id, or, if
its id is a numeral, with the id `FI-` and the numeral, else to a row of its own.

Result: `LegacyMergeLemmas.merge_eq`, that the merge fills a table by upserts, in dictionaries of
its own.
-/

namespace Scripts

open Flotilla Keyed

/-- A dictionary, by its place on the heap. -/
abbrev Ref := Nat

/-- The dictionaries that there are. -/
abbrev Heap := List JsonObj

def deref (h : Heap) (r : Ref) : JsonObj := h[r]?.getD []

/-- The dictionaries of a list of rows. -/
def rowsAt (h : Heap) (rows : List Ref) : List JsonObj := rows.map (deref h)

variable (py : Python)

/-- `s.strip()`. -/
def stripText (s : String) : String := String.ofList (py.strip s.toList)

/-- `s.isdigit()`. -/
def isDigits (s : String) : Bool := s.toList ≠ [] && s.toList.all py.isDigit

/-- `f"{n:03d}"`. -/
def threeDigits (n : Int) : String :=
  let digits := Nat.toDigits 10 n.natAbs
  if n < 0 then String.ofList ('-' :: (List.replicate (2 - digits.length) '0' ++ digits))
  else String.ofList (List.replicate (3 - digits.length) '0' ++ digits)

/-- `str(row.get("Task ID", "")).upper()`. -/
def rowKey (row : JsonObj) : String := py.upper (taskIdText row)

/-- The id of a legacy row. -/
def legacyId (row : JsonObj) : String := stripText py (taskIdText row)

/-- `canonical_legacy_feishu_task_id`. -/
def canonicalLegacyFeishuTaskId (legacyTaskId : String) (primaryTaskIds : Dict String String) :
    Except PyErr String :=
  let taskId := stripText py legacyTaskId
  if taskId = "" then .ok taskId
  else
    match Dict.get? primaryTaskIds (py.upper taskId) with
    | some primaryId => .ok primaryId
    | none =>
      if isDigits py taskId then
        match py.intOfStr taskId with
        | none => .error ⟨.valueError,
            "invalid literal for int() with base 10: " ++ (Json.str taskId).pyRepr⟩
        | some n =>
          .ok ((Dict.get? primaryTaskIds (py.upper ("FI-" ++ threeDigits n))).getD taskId)
      else .ok taskId

/-- `primary_by_upper`. -/
def primaryByUpper (rows : List JsonObj) : Dict String String :=
  rows.foldl (fun d row => Dict.set d (rowKey py row) (taskIdText row)) Table.empty

/-- The heap and the two collections of `merge_legacy_feishu_rows`. -/
structure MergeState where
  heap : Heap
  mergedOrder : List String
  merged : Dict String Ref

/-- The loop over the primary rows. -/
def addPrimaryRow (s : MergeState) (r : Ref) : MergeState :=
  let row := deref s.heap r
  let key := rowKey py row
  if key = "" then s
  else ⟨s.heap ++ [row], s.mergedOrder ++ [key], Dict.set s.merged key s.heap.length⟩

/-- The loop over the legacy rows, from where the ids of the row are known. -/
def addLegacyEntry (s : MergeState) (e : LegacyEntry) : MergeState :=
  let key := py.upper e.taskId
  if key = "" then s
  else
    match (Dict.get? s.merged key).filter fun r => deref s.heap r ≠ [] with
    | none =>
      ⟨s.heap ++ [e.row], s.mergedOrder ++ [key], Dict.set s.merged key s.heap.length⟩
    | some r =>
      let existing := deref s.heap r
      let row := withName existing e.row e.legacyTaskId
      if IsLive existing then
        -- in place, in a dictionary that the merge has made
        { s with heap := s.heap.set r (fillMetrics existing row) }
      else { s with heap := s.heap ++ [row], merged := Dict.set s.merged key s.heap.length }

/-- The loop over the legacy rows. -/
def addLegacyRow (primaryTaskIds : Dict String String) (s : MergeState) (r : Ref) :
    Except PyErr MergeState := do
  let legacyRow := deref s.heap r
  let legacyTaskId := legacyId py legacyRow
  let taskId ← canonicalLegacyFeishuTaskId py legacyTaskId primaryTaskIds
  pure (addLegacyEntry py s ⟨taskId, legacyTaskId, legacyRow⟩)

/-- `filter_feishu_rows`. -/
def filterFeishuRows (h : Heap) (rows : List Ref) (taskFilter : Option String) : List Ref :=
  if taskFilter.getD "" = "" then rows
  else rows.filter fun r =>
    rowKey py (deref h r) = py.upper (taskFilter.getD "") ||
      py.upper (getD (deref h r) "_legacy_task_id" (.str "")).pyStr
        = py.upper (taskFilter.getD "")

/-- `merge_legacy_feishu_rows`, on the heap of its caller. -/
def mergeLegacyFeishuRows (h : Heap) (primaryRows legacyRows : List Ref)
    (taskFilter : Option String) : Except PyErr (Heap × List Ref) := do
  let primaryTaskIds := primaryByUpper py (rowsAt h primaryRows)
  let s := primaryRows.foldl (addPrimaryRow py) ⟨h, [], Table.empty⟩
  let s ← legacyRows.foldlM (addLegacyRow py primaryTaskIds) s
  pure (s.heap, filterFeishuRows py s.heap (s.mergedOrder.filterMap (Dict.get? s.merged))
    taskFilter)

namespace LegacyMergeLemmas

open Upserts (Upsert)

variable {py} {h₀ : Heap} {s : MergeState} {t : Upserts.Table String JsonObj}

/-! ## The heap -/

theorem deref_append_of_lt {h : Heap} {r : Ref} (hr : r < h.length) (row : JsonObj) :
    deref (h ++ [row]) r = deref h r := by
  rw [deref, deref, List.getElem?_append_left hr]

theorem deref_append_length (h : Heap) (row : JsonObj) : deref (h ++ [row]) h.length = row := by
  rw [deref, List.getElem?_concat_length]
  rfl

/-- The state of the merge is that of a table whose rows are dictionaries of their own, made after
those of the caller. -/
structure Represents (h₀ : Heap) (s : MergeState) (t : Upserts.Table String JsonObj) : Prop where
  grows : h₀.length ≤ s.heap.length
  inputs : ∀ r < h₀.length, s.heap[r]? = h₀[r]?
  order : s.mergedOrder = t.order
  fresh : ∀ k e, Dict.get? s.merged k = some e → h₀.length ≤ e ∧ e < s.heap.length
  apart : ∀ k k' e, Dict.get? s.merged k = some e → Dict.get? s.merged k' = some e → k = k'
  rows : ∀ k, (Dict.get? s.merged k).map (deref s.heap) = t.row k

theorem Represents.deref_input (h : Represents h₀ s t) {r : Ref} (hr : r < h₀.length) :
    deref s.heap r = deref h₀ r := by
  rw [deref, deref, h.inputs r hr]

/-- An upsert that makes a new dictionary. -/
theorem Represents.store (h : Represents h₀ s t) (u : Upsert String JsonObj)
    {order : List String} (horder : order = (t.put u).order) :
    Represents h₀ ⟨s.heap ++ [u.2 (t.row u.1)], order, Dict.set s.merged u.1 s.heap.length⟩
      (t.put u) := by
  have hlength : (s.heap ++ [u.2 (t.row u.1)]).length = s.heap.length + 1 :=
    List.length_append
  refine ⟨?_, fun r hr => ?_, horder, fun k e he => ?_, fun k k' e he he' => ?_, fun k => ?_⟩
  · exact h.grows.trans (hlength ▸ Nat.le_succ _)
  · rw [List.getElem?_append_left (hr.trans_le h.grows)]
    exact h.inputs r hr
  · rw [Dict.get?_set] at he
    split at he
    · cases he
      exact ⟨h.grows, hlength ▸ Nat.lt_succ_self _⟩
    · obtain ⟨hlow, hhigh⟩ := h.fresh k e he
      exact ⟨hlow, hlength ▸ Nat.lt_succ_of_lt hhigh⟩
  · rw [Dict.get?_set] at he he'
    split at he <;> split at he'
    case isTrue.isTrue hk hk' => rw [hk, hk']
    case isTrue.isFalse hk hk' =>
      cases he
      exact absurd (h.fresh k' _ he').2 (lt_irrefl _)
    case isFalse.isTrue hk hk' =>
      cases he'
      exact absurd (h.fresh k _ he).2 (lt_irrefl _)
    case isFalse.isFalse hk hk' => exact h.apart k k' e he he'
  · rw [Dict.get?_set]
    split
    case isTrue hk =>
      rw [hk, Upserts.Table.row_put_self, Option.map_some, deref_append_length]
    case isFalse hk =>
      rw [Upserts.Table.row_put_of_ne t hk, ← h.rows k]
      cases he : Dict.get? s.merged k with
      | none => rfl
      | some e =>
        rw [Option.map_some, Option.map_some, deref_append_of_lt (h.fresh k e he).2]

/-- An upsert that changes the dictionary of its key in place. -/
theorem Represents.overwrite (h : Represents h₀ s t) (u : Upsert String JsonObj) {e : Ref}
    (he : Dict.get? s.merged u.1 = some e) :
    Represents h₀ { s with heap := s.heap.set e (u.2 (t.row u.1)) } (t.put u) := by
  obtain ⟨hlow, hhigh⟩ := h.fresh _ _ he
  have hsome : (t.row u.1).isSome = true := by
    rw [← h.rows, he]
    rfl
  refine ⟨?_, fun r hr => ?_, ?_, fun k e' he' => ?_, h.apart, fun k => ?_⟩
  · rw [List.length_set]
    exact h.grows
  · rw [List.getElem?_set_ne (hr.trans_le hlow).ne']
    exact h.inputs r hr
  · exact h.order.trans (if_pos hsome).symm
  · rw [List.length_set]
    exact h.fresh k e' he'
  · by_cases hk : k = u.1
    · rw [hk, Upserts.Table.row_put_self, he, Option.map_some, deref,
        List.getElem?_set_self hhigh]
      rfl
    · rw [Upserts.Table.row_put_of_ne t hk, ← h.rows k]
      cases he' : Dict.get? s.merged k with
      | none => rfl
      | some e' =>
        -- the keys have dictionaries of their own
        have hne : e ≠ e' := by
          rintro rfl
          exact hk (h.apart k u.1 e he' he)
        rw [Option.map_some, Option.map_some, deref, deref, List.getElem?_set_ne hne]

/-! ## The table -/

/-- The upserts of the primary rows. -/
def primaryUpserts (py : Python) (rows : List JsonObj) : List (Upsert String JsonObj) :=
  (rows.filter fun row => rowKey py row ≠ "").map fun row => (rowKey py row, fun _ => row)

/-- The upserts of the legacy rows. -/
def legacyUpserts (py : Python) (es : List LegacyEntry) : List (Upsert String JsonObj) :=
  (es.filter fun e => py.upper e.taskId ≠ "").map fun e => (py.upper e.taskId, mergeRow e)

/-- The primary rows as a table. -/
def primaryTable (py : Python) (rows : List JsonObj) : Upserts.Table String JsonObj :=
  (primaryUpserts py rows).foldl Upserts.Table.put Upserts.Table.empty

/-- The table after the merge. -/
def mergedTable (py : Python) (rows : List JsonObj) (es : List LegacyEntry) :
    Upserts.Table String JsonObj :=
  (legacyUpserts py es).foldl Upserts.Table.put (primaryTable py rows)

/-- Every row has the key under which it is. -/
def WellKeyed (py : Python) (t : Upserts.Table String JsonObj) : Prop :=
  ∀ k row, t.row k = some row → rowKey py row = k ∧ k ≠ ""

theorem WellKeyed.put {t : Upserts.Table String JsonObj} (h : WellKeyed py t)
    {u : Upsert String JsonObj} (hu : rowKey py (u.2 (t.row u.1)) = u.1) (hne : u.1 ≠ "") : WellKeyed py (t.put u) := by
  intro k row hrow
  by_cases hk : k = u.1
  · rw [hk, Upserts.Table.row_put_self] at hrow
    cases hrow
    subst hk
    exact ⟨hu, hne⟩
  · rw [Upserts.Table.row_put_of_ne t hk] at hrow
    exact h k row hrow

theorem upper_empty : py.upper "" = "" := by
  have h := py.upper_ascii "" fun c hc => by cases hc
  exact String.toList_inj.mp h

/-- A row with a key is not empty. -/
theorem ne_nil_of_rowKey {row : JsonObj} {k : String} (h : rowKey py row = k) (hk : k ≠ "") :
    row ≠ [] := by
  rintro rfl
  have hempty : rowKey py [] = "" := upper_empty
  exact hk (h.symm.trans hempty)

theorem rowKey_withName {existing row : JsonObj} {legacyTaskId : String} :
    rowKey py (withName existing row legacyTaskId) = rowKey py row := by
  rw [rowKey, rowKey, taskIdText, taskIdText,
    LegacyRowLemmas.getD_congr (LegacyRowLemmas.withName_get? (by decide))]

theorem rowKey_mergeRow (e : LegacyEntry) {o : Option JsonObj}
    (ho : ∀ existing, o = some existing → rowKey py existing = py.upper e.taskId) :
    rowKey py (mergeRow e o) = py.upper e.taskId := by
  have hrow : rowKey py e.row = py.upper e.taskId := by
    rw [rowKey, LegacyRowLemmas.taskIdText_row]
  cases o with
  | none => exact hrow
  | some existing =>
    by_cases hlive : IsLive existing
    · rw [LegacyRowLemmas.mergeRow_of_live hlive, rowKey, taskIdText,
        LegacyRowLemmas.getD_congr (LegacyRowLemmas.fillMetrics_get?_of_not_mem (by decide))]
      exact ho existing rfl
    · rw [LegacyRowLemmas.mergeRow_of_waiting hlive, rowKey_withName, hrow]

/-! ## The loops -/

theorem primaryUpserts_cons (row : JsonObj) (rows : List JsonObj) :
    primaryUpserts py (row :: rows) =
      if rowKey py row = "" then primaryUpserts py rows
      else (rowKey py row, fun _ => row) :: primaryUpserts py rows := by
  rw [primaryUpserts, List.filter_cons]
  by_cases h : rowKey py row = ""
  · rw [if_pos h, if_neg (by simpa using h)]
    rfl
  · rw [if_neg h, if_pos (by simpa using h)]
    rfl

theorem represents_primary_foldl {rows : List Ref} (hrep : Represents h₀ s t)
    (hkeyed : WellKeyed py t) (hrows : ∀ r ∈ rows, r < h₀.length)
    (hkeys : ((rowsAt h₀ rows).map (rowKey py)).Nodup)
    (hnew : ∀ row ∈ rowsAt h₀ rows, t.row (rowKey py row) = none) :
    Represents h₀ (rows.foldl (addPrimaryRow py) s)
        ((primaryUpserts py (rowsAt h₀ rows)).foldl Upserts.Table.put t) ∧
      WellKeyed py ((primaryUpserts py (rowsAt h₀ rows)).foldl Upserts.Table.put t) := by
  induction rows generalizing s t with
  | nil => exact ⟨hrep, hkeyed⟩
  | cons r rows ih =>
    obtain ⟨hr, hrest⟩ := List.forall_mem_cons.mp hrows
    obtain ⟨hkey, hnodup⟩ := List.nodup_cons.mp hkeys
    obtain ⟨hfirst, hnew⟩ := List.forall_mem_cons.mp hnew
    have hread := hrep.deref_input hr
    have hcons : rowsAt h₀ (r :: rows) = deref h₀ r :: rowsAt h₀ rows := rfl
    rw [List.foldl_cons, hcons, primaryUpserts_cons]
    by_cases hempty : rowKey py (deref h₀ r) = ""
    · have hstep : addPrimaryRow py s r = s := by
        rw [addPrimaryRow, hread]
        exact if_pos hempty
      rw [hstep, if_pos hempty]
      exact ih hrep hkeyed hrest hnodup hnew
    · have hstep : addPrimaryRow py s r = ⟨s.heap ++ [deref h₀ r],
          s.mergedOrder ++ [rowKey py (deref h₀ r)],
          Dict.set s.merged (rowKey py (deref h₀ r)) s.heap.length⟩ := by
        rw [addPrimaryRow, hread]
        exact if_neg hempty
      have horder : s.mergedOrder ++ [rowKey py (deref h₀ r)]
          = (t.put (rowKey py (deref h₀ r), fun _ => deref h₀ r)).order := by
        rw [hrep.order]
        exact (if_neg (by rw [hfirst]; exact Bool.false_ne_true)).symm
      rw [hstep, if_neg hempty, List.foldl_cons]
      refine ih (hrep.store (rowKey py (deref h₀ r), fun _ => deref h₀ r) horder)
        (hkeyed.put rfl hempty) hrest hnodup fun row hrow => ?_
      have hne : rowKey py row ≠ rowKey py (deref h₀ r) :=
        fun h => hkey (h ▸ List.mem_map_of_mem hrow)
      rw [Upserts.Table.row_put_of_ne t hne]
      exact hnew row hrow

/-- The loop over primary rows of different keys. -/
theorem represents_primary {rows : List Ref} (hrows : ∀ r ∈ rows, r < h₀.length)
    (hkeys : ((rowsAt h₀ rows).map (rowKey py)).Nodup) :
    Represents h₀ (rows.foldl (addPrimaryRow py) ⟨h₀, [], Table.empty⟩)
        (primaryTable py (rowsAt h₀ rows)) ∧
      WellKeyed py (primaryTable py (rowsAt h₀ rows)) := by
  have hempty : Represents h₀ ⟨h₀, [], Table.empty⟩ Upserts.Table.empty :=
    ⟨le_refl _, fun r _ => rfl, rfl, fun k e he => (by cases he), fun k k' e he => (by cases he),
      fun k => rfl⟩
  exact represents_primary_foldl hempty (fun k row hrow => by cases hrow) hrows hkeys
    fun row _ => rfl

/-- The entry of a legacy row. -/
def IsEntry (py : Python) (ids : Dict String String) (row : JsonObj) (e : LegacyEntry) : Prop :=
  canonicalLegacyFeishuTaskId py (legacyId py row) ids = .ok e.taskId ∧
    e.legacyTaskId = legacyId py row ∧ e.legacyRow = row

/-- The upserts of one legacy row: none if it has no key. -/
def legacyUpsert? (py : Python) (e : LegacyEntry) : List (Upsert String JsonObj) :=
  if py.upper e.taskId = "" then [] else [(py.upper e.taskId, mergeRow e)]

theorem legacyUpserts_cons (e : LegacyEntry) (es : List LegacyEntry) :
    legacyUpserts py (e :: es) = legacyUpsert? py e ++ legacyUpserts py es := by
  rw [legacyUpserts, legacyUpsert?, List.filter_cons]
  by_cases h : py.upper e.taskId = ""
  · rw [if_pos h, if_neg (by simpa using h)]
    rfl
  · rw [if_neg h, if_pos (by simpa using h)]
    rfl

/-- One legacy row. -/
theorem represents_addLegacyEntry (hrep : Represents h₀ s t) (hkeyed : WellKeyed py t)
    (e : LegacyEntry) :
    Represents h₀ (addLegacyEntry py s e) ((legacyUpsert? py e).foldl Upserts.Table.put t) ∧
      WellKeyed py ((legacyUpsert? py e).foldl Upserts.Table.put t) := by
  by_cases hempty : py.upper e.taskId = ""
  · have hstep : addLegacyEntry py s e = s := if_pos hempty
    rw [hstep, legacyUpsert?, if_pos hempty]
    exact ⟨hrep, hkeyed⟩
  · have hput : (legacyUpsert? py e).foldl Upserts.Table.put t
        = t.put (py.upper e.taskId, mergeRow e) := by
      rw [legacyUpsert?, if_neg hempty]
      rfl
    rw [hput]
    refine ⟨?_, hkeyed.put (rowKey_mergeRow e fun existing h => (hkeyed _ _ h).1) hempty⟩
    have hrow := hrep.rows (py.upper e.taskId)
    cases hget : Dict.get? s.merged (py.upper e.taskId) with
    | none =>
      rw [hget, Option.map_none] at hrow
      have hstep : addLegacyEntry py s e = ⟨s.heap ++ [mergeRow e (t.row (py.upper e.taskId))],
          s.mergedOrder ++ [py.upper e.taskId],
          Dict.set s.merged (py.upper e.taskId) s.heap.length⟩ := by
        simp only [addLegacyEntry, if_neg hempty, hget, Option.filter_none, ← hrow, mergeRow]
      have horder : s.mergedOrder ++ [py.upper e.taskId]
          = (t.put (py.upper e.taskId, mergeRow e)).order := by
        rw [hrep.order]
        exact (if_neg (by rw [← hrow]; exact Bool.false_ne_true)).symm
      rw [hstep]
      exact hrep.store (py.upper e.taskId, mergeRow e) horder
    | some r =>
      rw [hget, Option.map_some] at hrow
      have hne : deref s.heap r ≠ [] := ne_nil_of_rowKey (hkeyed _ _ hrow.symm).1 hempty
      have hfilter : (some r).filter (fun r => deref s.heap r ≠ []) = some r :=
        Option.filter_some_pos (decide_eq_true hne)
      by_cases hlive : IsLive (deref s.heap r)
      · have hstep : addLegacyEntry py s e
            = { s with heap := s.heap.set r (mergeRow e (t.row (py.upper e.taskId))) } := by
          simp only [addLegacyEntry, if_neg hempty, hget, hfilter, if_pos hlive, ← hrow, mergeRow]
        rw [hstep]
        exact hrep.overwrite (py.upper e.taskId, mergeRow e) hget
      · have hstep : addLegacyEntry py s e
            = { s with
                heap := s.heap ++ [mergeRow e (t.row (py.upper e.taskId))]
                merged := Dict.set s.merged (py.upper e.taskId) s.heap.length } := by
          simp only [addLegacyEntry, if_neg hempty, hget, hfilter, if_neg hlive, ← hrow, mergeRow]
        have horder : s.mergedOrder = (t.put (py.upper e.taskId, mergeRow e)).order := by
          rw [hrep.order]
          exact (if_pos (by rw [← hrow]; rfl)).symm
        rw [hstep]
        exact hrep.store (py.upper e.taskId, mergeRow e) horder

/-- The loop over the legacy rows, while they can be read. -/
theorem represents_legacy {ids : Dict String String} {rows : List Ref} {es : List LegacyEntry}
    (hrep : Represents h₀ s t) (hkeyed : WellKeyed py t) (hrows : ∀ r ∈ rows, r < h₀.length)
    (hes : List.Forall₂ (IsEntry py ids) (rowsAt h₀ rows) es) :
    ∃ s', rows.foldlM (addLegacyRow py ids) s = .ok s' ∧
      Represents h₀ s' ((legacyUpserts py es).foldl Upserts.Table.put t) ∧
      WellKeyed py ((legacyUpserts py es).foldl Upserts.Table.put t) := by
  induction rows generalizing s t es with
  | nil =>
    cases hes
    exact ⟨s, rfl, hrep, hkeyed⟩
  | cons r rows ih =>
    cases hes with
    | @cons _ e _ es he hrest =>
      obtain ⟨hr, hrows⟩ := List.forall_mem_cons.mp hrows
      obtain ⟨taskId, legacyTaskId, legacyRow⟩ := e
      obtain ⟨hcanonical, rfl, rfl⟩ := he
      have hstep : addLegacyRow py ids s r = .ok (addLegacyEntry py s
          ⟨taskId, legacyId py (deref h₀ r), deref h₀ r⟩) := by
        rw [addLegacyRow, hrep.deref_input hr, hcanonical]
        rfl
      obtain ⟨hrep₁, hkeyed₁⟩ := represents_addLegacyEntry hrep hkeyed
        ⟨taskId, legacyId py (deref h₀ r), deref h₀ r⟩
      obtain ⟨s', hs', hfinal⟩ := ih hrep₁ hkeyed₁ hrows hrest
      refine ⟨s', ?_, ?_⟩
      · rw [List.foldlM_cons, hstep]
        exact hs'
      · rw [legacyUpserts_cons, List.foldl_append]
        exact hfinal

/-! ## The rows of a table -/

/-- The rows, in the order of their keys. -/
def rowsOf (t : Upserts.Table String JsonObj) : List JsonObj := t.order.filterMap t.row

theorem ordered_primaryTable (rows : List JsonObj) : (primaryTable py rows).Ordered :=
  Upserts.Table.ordered_empty.foldl _

theorem ordered_mergedTable (rows : List JsonObj) (es : List LegacyEntry) :
    (mergedTable py rows es).Ordered := (ordered_primaryTable rows).foldl _

theorem map_rowKey_rowsOf (hord : t.Ordered) (hkeyed : WellKeyed py t) :
    (rowsOf t).map (rowKey py) = t.order := by
  have hall : ∀ k ∈ t.order, ∃ row, t.row k = some row := fun k hk =>
    Option.isSome_iff_exists.mp ((hord.mem_iff k).mp hk)
  rw [rowsOf]
  generalize t.order = ks at hall
  induction ks with
  | nil => rfl
  | cons k ks ih =>
    obtain ⟨⟨row, hrow⟩, hrest⟩ := List.forall_mem_cons.mp hall
    rw [List.filterMap_cons_some hrow, List.map_cons, ih hrest, (hkeyed k row hrow).1]

theorem mem_rowsOf (hord : t.Ordered) (hkeyed : WellKeyed py t) {row : JsonObj} :
    row ∈ rowsOf t ↔ t.row (rowKey py row) = some row := by
  rw [rowsOf, List.mem_filterMap]
  constructor
  · rintro ⟨k, -, hk⟩
    rwa [(hkeyed k row hk).1]
  · intro h
    exact ⟨_, (hord.mem_iff _).mpr (h ▸ rfl), h⟩

/-- The rows of a merge are those of its table. -/
theorem merge_eq {primary legacy : List Ref} {es : List LegacyEntry}
    (hprimary : ∀ r ∈ primary, r < h₀.length) (hlegacy : ∀ r ∈ legacy, r < h₀.length)
    (hkeys : ((rowsAt h₀ primary).map (rowKey py)).Nodup)
    (hes : List.Forall₂ (IsEntry py (primaryByUpper py (rowsAt h₀ primary)))
      (rowsAt h₀ legacy) es) :
    ∃ h₁ rows, mergeLegacyFeishuRows py h₀ primary legacy none = .ok (h₁, rows) ∧
      rowsAt h₁ rows = rowsOf (mergedTable py (rowsAt h₀ primary) es) ∧
      WellKeyed py (mergedTable py (rowsAt h₀ primary) es) ∧
      h₀.length ≤ h₁.length ∧ (∀ r < h₀.length, h₁[r]? = h₀[r]?) ∧
      ∀ r ∈ rows, r < h₁.length := by
  obtain ⟨hrep, hkeyed⟩ := represents_primary hprimary hkeys
  obtain ⟨s, hs, hrep, hkeyed⟩ := represents_legacy hrep hkeyed hlegacy hes
  refine ⟨s.heap, s.mergedOrder.filterMap (Dict.get? s.merged), ?_, ?_, hkeyed, hrep.grows,
    hrep.inputs, ?_⟩
  · rw [mergeLegacyFeishuRows, hs]
    rfl
  · rw [rowsAt, List.map_filterMap, hrep.order]
    exact List.filterMap_congr fun k _ => hrep.rows k
  · intro r hr
    obtain ⟨k, -, hk⟩ := List.mem_filterMap.mp hr
    exact (hrep.fresh k r hk).2

/-! ## Which keys there are -/

theorem primaryUpserts_keys (rows : List JsonObj) :
    (primaryUpserts py rows).map Prod.fst = (rows.map (rowKey py)).filter (· ≠ "") := by
  rw [primaryUpserts, List.map_map, List.filter_map]
  rfl

theorem legacyUpserts_keys (es : List LegacyEntry) :
    (legacyUpserts py es).map Prod.fst
      = (es.map fun e => py.upper e.taskId).filter (· ≠ "") := by
  rw [legacyUpserts, List.map_map, List.filter_map]
  rfl

/-- The keys of the merge: those of the primary rows, then those of the legacy rows. -/
theorem order_mergedTable (rows : List JsonObj) (es : List LegacyEntry) :
    (mergedTable py rows es).order = ((rows.map (rowKey py)).filter (· ≠ "") ++
      (es.map fun e => py.upper e.taskId).filter (· ≠ "")).eraseDups := by
  rw [mergedTable, primaryTable, ← List.foldl_append,
    Upserts.Table.order_foldl Upserts.Table.ordered_empty, List.map_append, primaryUpserts_keys,
    legacyUpserts_keys]
  rfl

/-! ## The row of a key -/

theorem mem_primaryUpserts {rows : List JsonObj} {u : Upsert String JsonObj}
    (hu : u ∈ primaryUpserts py rows) : u.1 ∈ rows.map (rowKey py) := by
  have hmem : u.1 ∈ (primaryUpserts py rows).map Prod.fst := List.mem_map_of_mem hu
  rw [primaryUpserts_keys] at hmem
  exact (List.mem_filter.mp hmem).1

/-- The primary row of a key. -/
theorem primaryUpserts_row {rows : List JsonObj} (hkeys : (rows.map (rowKey py)).Nodup)
    {row : JsonObj} (hrow : row ∈ rows) (hne : rowKey py row ≠ "") :
    ((primaryUpserts py rows).foldl Upserts.Table.put t).row (rowKey py row) = some row := by
  induction rows generalizing t with
  | nil => cases hrow
  | cons p rows ih =>
    obtain ⟨hp, hnodup⟩ := List.nodup_cons.mp hkeys
    rw [primaryUpserts_cons]
    rcases List.mem_cons.mp hrow with rfl | hrow
    · have hnone : (primaryUpserts py rows).filter (fun u => u.1 = rowKey py row) = [] :=
        List.filter_eq_nil_iff.mpr fun u hu => by
          have hmem := mem_primaryUpserts hu
          simpa using fun h : u.1 = rowKey py row => hp (h ▸ hmem)
      rw [if_neg hne, List.foldl_cons, Upserts.Table.row_foldl, hnone]
      exact Upserts.Table.row_put_self _ _
    · split
      · exact ih hnodup hrow
      · exact ih hnodup hrow

/-- The row of a key is made of the primary row and of the legacy rows of this key. -/
theorem mergedTable_row (rows : List JsonObj) (es : List LegacyEntry) {k : String} (hk : k ≠ "") :
    (mergedTable py rows es).row k = mergeInto ((primaryTable py rows).row k)
      (es.filter fun e => py.upper e.taskId = k) := by
  have hfilter : (legacyUpserts py es).filter (fun u => u.1 = k)
      = (es.filter fun e => py.upper e.taskId = k).map
        fun e => (py.upper e.taskId, mergeRow e) := by
    rw [legacyUpserts, List.filter_map, List.filter_filter]
    congr 1
    refine List.filter_congr fun e _ => ?_
    by_cases h : py.upper e.taskId = k
    · simp [h, hk]
    · simp [h]
  rw [mergedTable, Upserts.Table.row_foldl, hfilter, List.foldl_map]
  rfl

end LegacyMergeLemmas

end Scripts
