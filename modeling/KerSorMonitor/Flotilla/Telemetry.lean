import KerSorMonitor.Flotilla.Views

/-!
# The telemetry of workers (`flotilla/sinks/__init__.py`)

A worker chooses its status record freely. `normalize_status_record` is what stands between it and
the store, and again between the store and the views.

Results:
1. `allAt_normalizedText`, `allAt_boundedCount`, ...: what each field of a normalised record is.
2. `normalize_normalize`: a normalised record is left alone.
3. `telemetry_confined`: no status changes a field of the row, and every telemetry field is of its
   declared type and within its bounds.
-/

namespace Flotilla

/-! ## Dictionaries -/

namespace JsonObj

/-- The key is there, with this value wherever it occurs. -/
def AllAt (d : JsonObj) (k : String) (v : Json) : Prop :=
  k ∈ d.map Prod.fst ∧ ∀ kv ∈ d, kv.1 = k → kv.2 = v

theorem allAt_set_self (d : JsonObj) (k : String) (v : Json) : (d.set k v).AllAt k v := by
  unfold set
  by_cases hany : (d.any fun kv => kv.1 = k) = true
  · rw [if_pos hany]
    obtain ⟨kv, hkv, hk⟩ := List.any_eq_true.mp hany
    have hpair : (k, v) ∈ d.map fun kv => if kv.1 = k then (k, v) else kv := by
      refine List.mem_map.mpr ⟨kv, hkv, ?_⟩
      rw [if_pos (of_decide_eq_true hk)]
    refine ⟨List.mem_map.mpr ⟨_, hpair, rfl⟩, fun kv hkv hk => ?_⟩
    obtain ⟨kv', -, rfl⟩ := List.mem_map.mp hkv
    by_cases hk' : kv'.1 = k
    · rw [if_pos hk']
    · rw [if_neg hk'] at hk
      exact absurd hk hk'
  · rw [if_neg hany]
    refine ⟨by simp, fun kv hkv hk => ?_⟩
    rcases List.mem_append.mp hkv with hkv | hkv
    · exact absurd (List.any_eq_true.mpr ⟨kv, hkv, decide_eq_true hk⟩) hany
    · rw [List.mem_singleton.mp hkv]

theorem AllAt.set {d : JsonObj} {k k' : String} {v : Json} (h : d.AllAt k v) (hne : k ≠ k')
    (v' : Json) : (d.set k' v').AllAt k v := by
  obtain ⟨hmem, hall⟩ := h
  obtain ⟨kv, hkv, rfl⟩ := List.mem_map.mp hmem
  unfold JsonObj.set
  by_cases hany : (d.any fun kv => kv.1 = k') = true
  · rw [if_pos hany]
    have hkept : kv ∈ d.map fun kv => if kv.1 = k' then (k', v') else kv :=
      List.mem_map.mpr ⟨kv, hkv, if_neg hne⟩
    refine ⟨List.mem_map_of_mem hkept, fun x hx hk => ?_⟩
    obtain ⟨y, hy, rfl⟩ := List.mem_map.mp hx
    by_cases hy' : y.1 = k'
    · rw [if_pos hy'] at hk
      exact absurd hk.symm hne
    · rw [if_neg hy'] at hk ⊢
      exact hall y hy hk
  · rw [if_neg hany]
    refine ⟨List.mem_map_of_mem (List.mem_append_left _ hkv), fun x hx hk => ?_⟩
    rcases List.mem_append.mp hx with hx | hx
    · exact hall x hx hk
    · rw [List.mem_singleton.mp hx] at hk
      exact absurd hk.symm hne

/-- Storing what is there changes nothing. -/
theorem set_of_allAt {d : JsonObj} {k : String} {v : Json} (h : d.AllAt k v) : d.set k v = d := by
  obtain ⟨hmem, hall⟩ := h
  obtain ⟨kv, hkv, hk⟩ := List.mem_map.mp hmem
  unfold set
  rw [if_pos (List.any_eq_true.mpr ⟨kv, hkv, decide_eq_true hk⟩)]
  refine (List.map_congr_left fun x hx => ?_).trans (List.map_id d)
  by_cases hx' : x.1 = k
  · rw [if_pos hx']
    exact Prod.ext hx'.symm (hall x hx hx').symm
  · rw [if_neg hx']
    rfl

theorem AllAt.get? {d : JsonObj} {k : String} {v : Json} (h : d.AllAt k v) : d.get? k = some v := by
  rw [← set_of_allAt h, get?_set_self]

/-- What every step of a loop keeps. -/
theorem AllAt.foldl {α : Type} {step : JsonObj → α → JsonObj} {k : String} {v : Json}
    {xs : List α} (hstep : ∀ d, ∀ x ∈ xs, AllAt d k v → AllAt (step d x) k v) {d : JsonObj}
    (h : AllAt d k v) : AllAt (xs.foldl step d) k v := by
  induction xs generalizing d with
  | nil => exact h
  | cons x xs ih =>
    exact ih (fun d y hy => hstep d y (.tail _ hy)) (hstep d x (.head _) h)

/-- What one step of a loop stores, if the other steps are about other keys. -/
theorem allAt_foldl {α : Type} {step : JsonObj → α → JsonObj} {key : α → String} {v : Json}
    {xs : List α} (hnd : (xs.map key).Nodup) {x : α} (hx : x ∈ xs)
    (hself : ∀ d, AllAt (step d x) (key x) v)
    (hother : ∀ d y, key y ≠ key x → AllAt d (key x) v → AllAt (step d y) (key x) v)
    (d : JsonObj) : AllAt (xs.foldl step d) (key x) v := by
  induction xs generalizing d with
  | nil => exact absurd hx List.not_mem_nil
  | cons y ys ih =>
    rw [List.map_cons, List.nodup_cons] at hnd
    rw [List.foldl_cons]
    rcases List.mem_cons.mp hx with rfl | hx
    · refine AllAt.foldl (fun d z hz => hother d z fun he => ?_) (hself d)
      exact hnd.1 (he ▸ List.mem_map_of_mem hz)
    · exact ih hnd.2 hx _

end JsonObj

/-! ## The fields of a normalised record -/

namespace Telemetry

open JsonObj (AllAt)

/-- The speedup of a normalised record. -/
def normalizedSpeedup (speedup : Option Json) : Json :=
  match speedup.bind finiteFloat? with
  | some f => .float f
  | none => .null

/-- A text of a normalised record. -/
def normalizedText (limit : Nat) (nullable : Bool) (text : Option Json) : Json :=
  match text with
  | some (.str s) => .str (takeChars limit s)
  | _ => if nullable then .null else .str ""

/-- One round of the loop over the counters. -/
def countStep (source : JsonObj) (result : JsonObj) (count : String × Int) : JsonObj :=
  match source.get? count.1 with
  | none => result
  | some v => result.set count.1 (boundedCount count.2 v)

/-- One round of the loop over the texts. -/
def textStep (source : JsonObj) (result : JsonObj) (text : String × Nat × Bool) : JsonObj :=
  result.set text.1 (normalizedText text.2.1 text.2.2 (source.get? text.1))

/-- The steps of the normalisation. -/
theorem normalizeStatusRecord_eq (source : JsonObj) :
    normalizeStatusRecord source =
      (stringLimits.foldl (textStep source)
        (countLimits.foldl (countStep source)
          (source.set "speedup" (normalizedSpeedup (source.get? "speedup"))))).set
        "exited" (.bool ((source.get? "exited").any Json.truthy)) := rfl

theorem countStep_of_get? {source : JsonObj} {count : String × Int} {v : Json}
    (h : source.get? count.1 = some v) (result : JsonObj) :
    countStep source result count = result.set count.1 (boundedCount count.2 v) := by
  unfold countStep
  rw [h]

theorem countStep_of_get?_none {source : JsonObj} {count : String × Int}
    (h : source.get? count.1 = none) (result : JsonObj) :
    countStep source result count = result := by
  unfold countStep
  rw [h]

theorem allAt_countStep {source : JsonObj} {k : String} {v : Json} {count : String × Int}
    (hne : k ≠ count.1) {result : JsonObj} (h : AllAt result k v) :
    AllAt (countStep source result count) k v := by
  cases hget : source.get? count.1 with
  | none =>
    rw [countStep_of_get?_none hget]
    exact h
  | some v' =>
    rw [countStep_of_get? hget]
    exact h.set hne _

theorem allAt_exited (source : JsonObj) :
    AllAt (normalizeStatusRecord source) "exited"
      (.bool ((source.get? "exited").any Json.truthy)) := by
  rw [normalizeStatusRecord_eq]
  exact JsonObj.allAt_set_self _ _ _

theorem allAt_normalizedText (source : JsonObj) {text : String × Nat × Bool}
    (htext : text ∈ stringLimits) :
    AllAt (normalizeStatusRecord source) text.1
      (normalizedText text.2.1 text.2.2 (source.get? text.1)) := by
  have hexited : ∀ text ∈ stringLimits, text.1 ≠ "exited" := by decide
  have hnodup : (stringLimits.map Prod.fst).Nodup := by decide
  rw [normalizeStatusRecord_eq]
  refine AllAt.set ?_ (hexited text htext) _
  refine JsonObj.allAt_foldl hnodup htext (fun d => JsonObj.allAt_set_self _ _ _) ?_ _
  exact fun d y hne h => h.set (Ne.symm hne) _

/-- What is stored before the texts are is kept, unless it is one of them. -/
theorem AllAt.texts {source result : JsonObj} {k : String} {v : Json}
    (hk : ∀ text ∈ stringLimits, k ≠ text.1) (hexited : k ≠ "exited") (h : AllAt result k v)
    (exited : Json) :
    AllAt ((stringLimits.foldl (textStep source) result).set "exited" exited) k v :=
  (AllAt.foldl (fun _ text htext h => h.set (hk text htext) _) h).set hexited _

theorem allAt_boundedCount {source : JsonObj} {count : String × Int} (hcount : count ∈ countLimits)
    {v : Json} (hget : source.get? count.1 = some v) :
    AllAt (normalizeStatusRecord source) count.1 (boundedCount count.2 v) := by
  have htexts : ∀ count ∈ countLimits, ∀ text ∈ stringLimits, count.1 ≠ text.1 := by decide
  have hexited : ∀ count ∈ countLimits, count.1 ≠ "exited" := by decide
  have hnodup : (countLimits.map Prod.fst).Nodup := by decide
  rw [normalizeStatusRecord_eq]
  refine AllAt.texts (htexts count hcount) (hexited count hcount) ?_ _
  refine JsonObj.allAt_foldl hnodup hcount (fun d => ?_) ?_ _
  · rw [countStep_of_get? hget]
    exact JsonObj.allAt_set_self _ _ _
  · exact fun d y hne h => allAt_countStep (Ne.symm hne) h

/-- A counter that was not reported stays away. -/
theorem get?_count_eq_none {source : JsonObj} {count : String × Int} (hcount : count ∈ countLimits)
    (hget : source.get? count.1 = none) :
    (normalizeStatusRecord source).get? count.1 = none := by
  have htexts : ∀ count ∈ countLimits, ∀ text ∈ stringLimits, count.1 ≠ text.1 := by decide
  have hothers : ∀ count ∈ countLimits, count.1 ≠ "exited" ∧ count.1 ≠ "speedup" := by decide
  obtain ⟨hexited, hspeedup⟩ := hothers count hcount
  rw [normalizeStatusRecord_eq, JsonObj.get?_set_of_ne _ _ _ hexited]
  refine List.foldlRecOn stringLimits (textStep source)
    (motive := fun d => d.get? count.1 = none) ?_ fun d hd text htext => ?_
  · refine List.foldlRecOn countLimits (countStep source)
      (motive := fun d => d.get? count.1 = none) ?_ fun d hd other _ => ?_
    · rw [JsonObj.get?_set_of_ne _ _ _ hspeedup]
      exact hget
    · by_cases he : other.1 = count.1
      · rw [countStep_of_get?_none (he.symm ▸ hget)]
        exact hd
      · cases hother : source.get? other.1 with
        | none =>
          rw [countStep_of_get?_none hother]
          exact hd
        | some v =>
          rw [countStep_of_get? hother, JsonObj.get?_set_of_ne _ _ _ (Ne.symm he)]
          exact hd
  · unfold textStep
    rw [JsonObj.get?_set_of_ne _ _ _ (htexts count hcount text htext)]
    exact hd

theorem allAt_normalizedSpeedup (source : JsonObj) :
    AllAt (normalizeStatusRecord source) "speedup"
      (normalizedSpeedup (source.get? "speedup")) := by
  have htexts : ∀ text ∈ stringLimits, "speedup" ≠ text.1 := by decide
  have hcounts : ∀ count ∈ countLimits, "speedup" ≠ count.1 := by decide
  rw [normalizeStatusRecord_eq]
  refine AllAt.texts htexts (by decide) ?_ _
  exact AllAt.foldl (fun d count hcount h => allAt_countStep (hcounts count hcount) h)
    (JsonObj.allAt_set_self _ _ _)

/-! ## Normalising twice -/

theorem finite_of_finiteFloat? {v : Json} {f : PyFloat} (h : finiteFloat? v = some f) :
    ∃ m e, f = .dec m e := by
  unfold finiteFloat? at h
  split at h
  · split at h
    · cases h
      exact ⟨_, _, rfl⟩
    · cases h
  · cases h
    exact ⟨_, _, rfl⟩
  · cases h

/-- A speedup is `None` or finite. -/
theorem normalizedSpeedup_cases (speedup : Option Json) :
    normalizedSpeedup speedup = .null ∨ ∃ m e, normalizedSpeedup speedup = .float (.dec m e) := by
  unfold normalizedSpeedup
  cases h : speedup.bind finiteFloat? with
  | none => exact Or.inl rfl
  | some f =>
    obtain ⟨v, -, hv⟩ := Option.bind_eq_some_iff.mp h
    obtain ⟨m, e, rfl⟩ := finite_of_finiteFloat? hv
    exact Or.inr ⟨m, e, rfl⟩

theorem normalizedSpeedup_normalizedSpeedup (speedup : Option Json) :
    normalizedSpeedup (some (normalizedSpeedup speedup)) = normalizedSpeedup speedup := by
  rcases normalizedSpeedup_cases speedup with hnull | ⟨m, e, hfloat⟩
  · rw [hnull]
    rfl
  · rw [hfloat]
    rfl

theorem takeChars_takeChars (limit : Nat) (s : String) :
    takeChars limit (takeChars limit s) = takeChars limit s := by
  unfold takeChars
  rw [String.toList_ofList, List.take_take, Nat.min_self]

/-- A value that is not a text is replaced. -/
theorem normalizedText_cases (limit : Nat) (nullable : Bool) (text : Option Json) :
    (∃ s, text = some (.str s)) ∨
      normalizedText limit nullable text = if nullable then .null else .str "" := by
  unfold normalizedText
  split
  · next s => exact Or.inl ⟨s, rfl⟩
  · exact Or.inr rfl

theorem normalizedText_normalizedText (limit : Nat) (nullable : Bool) (text : Option Json) :
    normalizedText limit nullable (some (normalizedText limit nullable text)) =
      normalizedText limit nullable text := by
  rcases normalizedText_cases limit nullable text with ⟨s, rfl⟩ | hdefault
  · exact congrArg Json.str (takeChars_takeChars limit s)
  · rw [hdefault]
    cases nullable
    · exact congrArg Json.str (by simp [takeChars])
    · rfl

theorem boundedCount_boundedCount {maximum : Int} (hmax : 0 ≤ maximum) (v : Json) :
    boundedCount maximum (boundedCount maximum v) = boundedCount maximum v := by
  have hzero : boundedCount maximum (.int 0) = .int 0 := if_pos ⟨le_rfl, hmax⟩
  cases v with
  | int n =>
    by_cases hn : 0 ≤ n ∧ n ≤ maximum
    · have hkeep : boundedCount maximum (.int n) = .int n := if_pos hn
      rw [hkeep, hkeep]
    · have hdrop : boundedCount maximum (.int n) = .int 0 := if_neg hn
      rw [hdrop, hzero]
  | _ => exact hzero

/-- A loop whose steps change nothing changes nothing. -/
theorem foldl_fixed {α : Type} {step : JsonObj → α → JsonObj} {d : JsonObj} (xs : List α)
    (h : ∀ x ∈ xs, step d x = d) : xs.foldl step d = d :=
  List.foldlRecOn xs step (motive := fun d' => d' = d) rfl fun _ hd x hx => hd ▸ h x hx

theorem normalize_normalize (source : JsonObj) :
    normalizeStatusRecord (normalizeStatusRecord source) = normalizeStatusRecord source := by
  generalize hr : normalizeStatusRecord source = record
  have hspeedup := hr ▸ allAt_normalizedSpeedup source
  have hexited := hr ▸ allAt_exited source
  have hcounts : ∀ count ∈ countLimits, countStep record record count = record := by
    intro count hcount
    cases hget : source.get? count.1 with
    | none =>
      have hnone := get?_count_eq_none hcount hget
      rw [hr] at hnone
      exact countStep_of_get?_none hnone record
    | some v =>
      have hall := allAt_boundedCount hcount hget
      rw [hr] at hall
      have hmax : ∀ count ∈ countLimits, 0 ≤ count.2 := by decide
      rw [countStep_of_get? hall.get?, boundedCount_boundedCount (hmax count hcount)]
      exact JsonObj.set_of_allAt hall
  have htexts : ∀ text ∈ stringLimits, textStep record record text = record := by
    intro text htext
    have hall := allAt_normalizedText source htext
    rw [hr] at hall
    unfold textStep
    rw [hall.get?, normalizedText_normalizedText]
    exact JsonObj.set_of_allAt hall
  rw [normalizeStatusRecord_eq, hspeedup.get?, normalizedSpeedup_normalizedSpeedup,
    JsonObj.set_of_allAt hspeedup, foldl_fixed _ hcounts, foldl_fixed _ htexts, hexited.get?]
  exact JsonObj.set_of_allAt hexited

/-! ## Declared types -/

/-- The type of a telemetry field: a text, a counter, a finite number or `None`, a flag. -/
inductive FieldType
  | text (limit : Nat) (nullable : Bool)
  | count (maximum : Int)
  | finite
  | flag
  deriving DecidableEq

/-- The value is of the type and within its bounds. -/
def FieldType.Admits : FieldType → Json → Prop
  | text limit _, .str s => s.toList.length ≤ limit
  | text _ nullable, .null => nullable = true
  | count maximum, .int n => 0 ≤ n ∧ n ≤ maximum
  | finite, .float (.dec _ _) => True
  | finite, .null => True
  | flag, .bool _ => True
  | _, _ => False

/-- The telemetry fields of `TaskView`, with the bounds of `normalize_status_record`. -/
def fieldTypes : List (String × FieldType) :=
  [("status_state", .text 64 true), ("speedup", .finite), ("rounds", .count 10000000),
   ("candidates", .count 10000000), ("best_candidate", .text 1024 true),
   ("timestamp", .text 128 false), ("pane_tail", .text 16384 false),
   ("session_uuid", .text 256 true), ("last_activity", .text 2048 false),
   ("last_tool", .text 256 true), ("tokens", .count 1000000000000000), ("exited", .flag),
   ("source", .text 128 true)]

/-- Every default of `_STATUS_DEFAULTS` is of its type. -/
theorem admits_default : ∀ field ∈ fieldTypes, ∃ default,
    (field.1, default) ∈ Sinks.statusDefaults ∧ field.2.Admits default := by
  intro field hfield
  simp only [fieldTypes, List.mem_cons, List.not_mem_nil, or_false] at hfield
  rcases hfield with rfl | rfl | rfl | rfl | rfl | rfl | rfl | rfl | rfl | rfl | rfl | rfl | rfl
  all_goals exact ⟨_, by simp [Sinks.statusDefaults]; rfl, by simp [FieldType.Admits]⟩

theorem admits_normalizedSpeedup (speedup : Option Json) :
    FieldType.finite.Admits (normalizedSpeedup speedup) := by
  rcases normalizedSpeedup_cases speedup with hnull | ⟨m, e, hfloat⟩
  · rw [hnull]
    trivial
  · rw [hfloat]
    trivial

theorem admits_normalizedText (limit : Nat) (nullable : Bool) (text : Option Json) :
    (FieldType.text limit nullable).Admits (normalizedText limit nullable text) := by
  rcases normalizedText_cases limit nullable text with ⟨s, rfl⟩ | hdefault
  · show (takeChars limit s).toList.length ≤ limit
    unfold takeChars
    rw [String.toList_ofList]
    exact List.length_take_le limit _
  · rw [hdefault]
    cases nullable
    · exact Nat.zero_le limit
    · rfl

theorem admits_boundedCount {maximum : Int} (hmax : 0 ≤ maximum) (v : Json) :
    (FieldType.count maximum).Admits (boundedCount maximum v) := by
  cases v with
  | int n =>
    by_cases hn : 0 ≤ n ∧ n ≤ maximum
    · have hkeep : boundedCount maximum (.int n) = .int n := if_pos hn
      rw [hkeep]
      exact hn
    · have hdrop : boundedCount maximum (.int n) = .int 0 := if_neg hn
      rw [hdrop]
      exact ⟨le_rfl, hmax⟩
  | _ => exact ⟨le_rfl, hmax⟩

/-- Each field is one of the texts, one of the counters, the speedup or `exited`. -/
theorem fieldTypes_cases : ∀ field ∈ fieldTypes,
    (∃ text ∈ stringLimits, field = (text.1, .text text.2.1 text.2.2)) ∨
    (∃ count ∈ countLimits, field = (count.1, .count count.2) ∧ 0 ≤ count.2) ∨
    field = ("speedup", .finite) ∨ field = ("exited", .flag) := by
  decide

/-- Every field that a normalised record has is of its type. -/
theorem admits_normalize (source : JsonObj) {field : String × FieldType}
    (hfield : field ∈ fieldTypes) {v : Json}
    (hget : (normalizeStatusRecord source).get? field.1 = some v) : field.2.Admits v := by
  rcases fieldTypes_cases field hfield with
    ⟨text, htext, rfl⟩ | ⟨count, hcount, rfl, hmax⟩ | rfl | rfl
  · rw [(allAt_normalizedText source htext).get?, Option.some.injEq] at hget
    rw [← hget]
    exact admits_normalizedText _ _ _
  · cases hsource : source.get? count.1 with
    | none => rw [get?_count_eq_none hcount hsource] at hget; cases hget
    | some v' =>
      rw [(allAt_boundedCount hcount hsource).get?, Option.some.injEq] at hget
      rw [← hget]
      exact admits_boundedCount hmax v'
  · rw [(allAt_normalizedSpeedup source).get?, Option.some.injEq] at hget
    rw [← hget]
    exact admits_normalizedSpeedup _
  · rw [(allAt_exited source).get?, Option.some.injEq] at hget
    rw [← hget]
    trivial

theorem get?_telemetry (status : JsonObj) {k : String} {default : Json}
    (h : (k, default) ∈ Sinks.statusDefaults) :
    (Sinks.telemetry status).get? k =
      some (((normalizeStatusRecord status).get? k).getD default) := by
  have hmap : ∀ defaults : JsonObj, (defaults.map Prod.fst).Nodup → (k, default) ∈ defaults →
      JsonObj.get? (defaults.map fun kv =>
        (kv.1, ((normalizeStatusRecord status).get? kv.1).getD kv.2)) k =
        some (((normalizeStatusRecord status).get? k).getD default) := by
    intro defaults hnd hmem
    induction defaults with
    | nil => exact absurd hmem List.not_mem_nil
    | cons kv defaults ih =>
      rw [List.map_cons, List.nodup_cons] at hnd
      rw [List.map_cons, JsonObj.get?_cons]
      rcases List.mem_cons.mp hmem with rfl | hmem
      · rw [if_pos rfl]
      · have hne : kv.1 ≠ k := by
          rintro rfl
          exact hnd.1 (List.mem_map.mpr ⟨_, hmem, rfl⟩)
        rw [if_neg hne]
        exact ih hnd.2 hmem
  have hnodup : (Sinks.statusDefaults.map Prod.fst).Nodup := by decide
  exact hmap _ hnodup h

/-- The telemetry of a payload is that of the status. -/
theorem get?_payload (db : Db) (task : Task) (status : Option JsonObj) (deleted includeSpec : Bool)
    {k : String} (hk : k ∈ Views.telemetryKeys) :
    (Views.buildTaskView db task status deleted includeSpec).get? k =
      ((Sinks.telemetry (status.getD (Sinks.latestStatus task.id db))).get? k).or
        (JsonObj.get? [("deleted", .bool deleted)] k) := by
  have hapart : ∀ k ∈ Views.telemetryKeys, k ∉ "spec" :: Views.lifecycleKeys := by decide
  have hnone : (Views.persisted task includeSpec).get? k = none := by
    unfold JsonObj.get?
    rw [Option.map_eq_none_iff, List.find?_eq_none]
    intro kv hkv heq
    have hkey := Views.persisted_keys task includeSpec _ (List.mem_map_of_mem hkv)
    exact hapart k hk (of_decide_eq_true heq ▸ hkey)
  rw [Views.buildTaskView_eq_append, List.append_assoc, JsonObj.get?_append, hnone, Option.none_or,
    JsonObj.get?_append]

/-- No status changes a field of the row; every telemetry field of a payload and of a stored record
is of its declared type, within its bounds; and a normalised record is left alone. -/
theorem telemetry_confined :
    (∀ db task status deleted includeSpec, ∀ k ∈ Views.lifecycleKeys,
      (Views.buildTaskView db task status deleted includeSpec).get? k =
        (Views.persisted task false).get? k) ∧
    (∀ db task status deleted includeSpec, ∀ field ∈ fieldTypes, ∃ v,
      (Views.buildTaskView db task status deleted includeSpec).get? field.1 = some v ∧
        field.2.Admits v) ∧
    (∀ status, ∀ field ∈ fieldTypes, ∀ v,
      (normalizeStatusRecord status).get? field.1 = some v → field.2.Admits v) ∧
    (∀ status, normalizeStatusRecord (normalizeStatusRecord status) =
      normalizeStatusRecord status) := by
  refine ⟨fun db task status deleted includeSpec k hk => ?_,
    fun db task status deleted includeSpec field hfield => ?_,
    fun status field hfield v => admits_normalize status hfield, normalize_normalize⟩
  · have hspec : ∀ k ∈ Views.lifecycleKeys, "spec" ≠ k := by decide
    rw [Views.get?_lifecycle _ _ _ _ _ hk]
    cases includeSpec
    · rfl
    · rw [Views.persisted_eq, Views.persisted_eq]
      simp [JsonObj.get?_cons, hspec k hk]
  · obtain ⟨default, hdefault, hadmits⟩ := admits_default field hfield
    have hkey : field.1 ∈ Views.telemetryKeys := List.mem_map_of_mem hdefault
    rw [get?_payload db task status deleted includeSpec hkey, get?_telemetry _ hdefault,
      Option.some_or]
    refine ⟨_, rfl, ?_⟩
    cases hget : (normalizeStatusRecord
        (status.getD (Sinks.latestStatus task.id db))).get? field.1 with
    | none => exact hadmits
    | some v => exact admits_normalize _ hfield hget

end Telemetry

end Flotilla
