import KerSorMonitor.Lib.Placement
import KerSorMonitor.Lib.Search
import KerSorMonitor.Scripts.Nudge
import KerSorMonitor.Akctl.Patrol

/-!
# The slots of a registry as it is read (`scripts/install-autokaggle-control.py`)

Here a registry is what `json.loads` makes of `registry.json`, so a record need not have the fields
that the code looks for: it skips a GPU index or slot of which `int` makes nothing, and raises at
anything else that it did not expect.

Result: `slotChoice_iff`, the registries for which `choose_available_slot` chooses as it should.
-/

namespace Akctl.Raw

open Flotilla Scripts

variable (py : Python) (files : Files)

/-! ## Records -/

/-- A value with a `get`. -/
def asDict : Json → Except PyErr JsonObj
  | .obj d => .ok d
  | _ => .error ⟨.exception, "object has no attribute 'get'"⟩

/-- `task_status`. -/
def taskStatus (record : JsonObj) : Except PyErr String :=
  match getD record "workspace" (.str "") with
  | .str workspace =>
    match files workspace with
    | .state s => .ok (orUnknown s)
    | .absent | .unreadable => .ok (pyOr (getD record "status" .null) (.str "unknown")).pyStr
  | _ => .error ⟨.typeError, "expected str, bytes or os.PathLike object"⟩

/-- An iteration of `active_registry_records`. -/
def activeRecord (value : Json) : Except PyErr (Option JsonObj) := do
  let record ← asDict value
  if (getD record "smoke" .null).truthy then pure none
  else
    let status ← taskStatus files record
    pure (if status ∈ terminalStates then none else some record)

/-- `(registry.get("tasks") or {}).values()`. -/
def taskValues (registry : JsonObj) : Except PyErr (List Json) := do
  let tasks ← statusData (getD registry "tasks" .null)
  pure (tasks.map Prod.snd)

/-- `active_registry_records`. -/
def activeRegistryRecords (registry : JsonObj) : Except PyErr (List JsonObj) := do
  let values ← taskValues registry
  let records ← values.mapM (activeRecord files)
  pure (records.filterMap id)

/-! ## Counts and slots -/

/-- `int(value)`; a `TypeError` or a `ValueError` is passed over. -/
def intOrSkip (value : Json) : Except PyErr (Option Int) :=
  match pyInt py value with
  | .ok n => .ok (some n)
  | .error e => if e.cls = .typeError ∨ e.cls.isValueError then .ok none else .error e

/-- The GPU index of a record. -/
def gpuIndex (record : JsonObj) : Except PyErr (Option Int) := do
  let gpu ← statusData (getD record "gpu" .null)
  intOrSkip py (getD gpu "index" .null)

/-- The GPU index and the slot of a record. -/
def gpuPlace (record : JsonObj) : Except PyErr (Option (Int × Int)) := do
  let gpu ← statusData (getD record "gpu" .null)
  match ← intOrSkip py (getD gpu "index" .null) with
  | none => pure none
  | some index =>
    let slot ← intOrSkip py (getD gpu "slot" .null)
    pure (slot.map fun slot => (index, slot))

/-- `active_counts`. -/
def activeCounts (registry : JsonObj) : Except PyErr (Nat × (Int → Nat)) := do
  let records ← activeRegistryRecords files registry
  let indexes ← records.mapM (gpuIndex py)
  pure (records.length, fun gpu => indexes.count (some gpu))

/-- `occupied_slots`. -/
def occupiedSlots (registry : JsonObj) : Except PyErr (List (Int × Int)) := do
  let records ← activeRegistryRecords files registry
  let places ← records.mapM (gpuPlace py)
  pure (places.filterMap id)

/-- `choose_available_slot`. -/
def chooseAvailableSlot (m : Moment) (registry : JsonObj) (rows : List QueueRow) (maxPerGpu : Int) :
    Except PyErr (Option (Gpu × Nat)) :=
  if maxPerGpu ≤ 0 then .ok none
  else do
    let (_, byGpu) ← activeCounts py m.files registry
    let occupied ← occupiedSlots py m.files registry
    let before (a b : Gpu) : Bool := byGpu a.index < byGpu b.index ||
      (byGpu a.index = byGpu b.index && decide (a.index ≤ b.index))
    let candidates := (gpuInventory m rows).mergeSort before
    pure (candidates.findSome? fun gpu =>
      if maxPerGpu ≤ byGpu gpu.index then none
      else
        ((List.range maxPerGpu.toNat).find? fun slot : Nat =>
          !occupied.contains (gpu.index, (slot : Int))).map fun slot => (gpu, slot))

/-! ## What can be read -/

/-- `int` makes an integer of the value, or raises a `TypeError` or a `ValueError`. -/
def Skippable (value : Json) : Prop :=
  ∀ e, pyInt py value = .error e → e.cls = .typeError ∨ e.cls.isValueError

/-- The GPU of a record is missing or a `dict`, with an index and a slot that can be skipped. -/
def ReadableGpu (record : JsonObj) : Prop :=
  ∃ gpu, statusData (getD record "gpu" .null) = .ok gpu ∧ Skippable py (getD gpu "index" .null) ∧
    ((∃ index, pyInt py (getD gpu "index" .null) = .ok index) →
      Skippable py (getD gpu "slot" .null))

/-- A `dict` whose status can be read, unless it is that of a smoke task. -/
def ReadableRecord (value : Json) : Prop :=
  ∃ record, value = .obj record ∧ ((getD record "smoke" .null).truthy = true ∨
    ∃ workspace, getD record "workspace" (.str "") = .str workspace)

/-- The records can be read, and the GPUs of the active ones. -/
def Readable (registry : JsonObj) : Prop :=
  ∃ values, taskValues registry = .ok values ∧ (∀ value ∈ values, ReadableRecord value) ∧
    ∀ value ∈ values, ∀ record, activeRecord files value = .ok (some record) → ReadableGpu py record

/-! ## What the records are -/

/-- The active records. -/
def activeOf (registry : JsonObj) : List JsonObj :=
  match taskValues registry with
  | .ok values => values.filterMap fun value => (activeRecord files value).toOption.join
  | .error _ => []

/-- The number of active records on a GPU. -/
def loadOf (registry : JsonObj) (gpu : Int) : Nat :=
  (activeOf files registry).countP fun record => (gpuIndex py record).toOption.join = some gpu

/-- The place is that of an active record. -/
def Occupied (registry : JsonObj) (gpu slot : Int) : Prop :=
  ∃ record ∈ activeOf files registry, gpuPlace py record = .ok (some (gpu, slot))

/-! ## When the parts raise -/

section Parts

variable {py} {files}

theorem statusData_isOk {v : Json} (h : v.truthy = true) {d : JsonObj} :
    statusData v = .ok d ↔ v = .obj d := by
  unfold statusData
  rw [if_pos h]
  cases v <;> simp

theorem intOrSkip_isOk {value : Json} : (∃ r, intOrSkip py value = .ok r) ↔ Skippable py value := by
  unfold intOrSkip Skippable
  cases hint : pyInt py value with
  | ok n => exact iff_of_true ⟨_, rfl⟩ fun e he => by cases he
  | error e =>
    dsimp only
    split
    · next hskip => exact iff_of_true ⟨_, rfl⟩ fun e' he' => by cases he'; exact hskip
    · next hraise =>
      refine iff_of_false ?_ fun hall => hraise (hall e rfl)
      rintro ⟨r, hr⟩
      cases hr

theorem intOrSkip_eq_some {value : Json} {n : Int} :
    intOrSkip py value = .ok (some n) ↔ pyInt py value = .ok n := by
  unfold intOrSkip
  cases pyInt py value with
  | ok n' => simp
  | error e =>
    dsimp only
    split <;> simp

theorem activeRecord_isOk {value : Json} :
    (∃ r, activeRecord files value = .ok r) ↔ ReadableRecord value := by
  unfold activeRecord ReadableRecord
  rw [Search.bind_isOk_iff]
  constructor
  · rintro ⟨record, hrecord, h⟩
    cases value with
    | obj d =>
      cases hrecord
      refine ⟨record, rfl, ?_⟩
      by_cases hsmoke : (getD record "smoke" .null).truthy = true
      · exact .inl hsmoke
      · rw [if_neg hsmoke, Search.bind_isOk_iff] at h
        obtain ⟨status, hstatus, -⟩ := h
        unfold taskStatus at hstatus
        split at hstatus
        · next workspace hworkspace => exact .inr ⟨workspace, hworkspace⟩
        · cases hstatus
    | _ => cases hrecord
  · rintro ⟨record, rfl, hsmoke | ⟨workspace, hworkspace⟩⟩
    · exact ⟨record, rfl, none, by rw [if_pos hsmoke]; rfl⟩
    · refine ⟨record, rfl, ?_⟩
      split
      · exact ⟨none, rfl⟩
      · rw [Search.bind_isOk_iff]
        unfold taskStatus
        rw [hworkspace]
        dsimp only
        split <;> exact ⟨_, rfl, _, rfl⟩

theorem gpuPlace_isOk {record : JsonObj} :
    (∃ r, gpuPlace py record = .ok r) ↔ ReadableGpu py record := by
  unfold gpuPlace ReadableGpu
  rw [Search.bind_isOk_iff]
  refine exists_congr fun gpu => and_congr_right fun _ => ?_
  rw [Search.bind_isOk_iff]
  constructor
  · rintro ⟨index, hindex, h⟩
    refine ⟨intOrSkip_isOk.mp ⟨index, hindex⟩, ?_⟩
    rintro ⟨n, hn⟩
    rw [intOrSkip_eq_some.mpr hn] at hindex
    cases hindex
    obtain ⟨slot, hslot, -⟩ := Search.bind_isOk_iff.mp h
    exact intOrSkip_isOk.mp ⟨slot, hslot⟩
  · rintro ⟨hindex, hslot⟩
    obtain ⟨index, hindex⟩ := intOrSkip_isOk.mpr hindex
    refine ⟨index, hindex, ?_⟩
    cases index with
    | none => exact ⟨none, rfl⟩
    | some n =>
      obtain ⟨slot, hslot⟩ := intOrSkip_isOk.mpr (hslot ⟨n, intOrSkip_eq_some.mp hindex⟩)
      exact Search.bind_isOk_iff.mpr ⟨slot, hslot, _, rfl⟩

theorem gpuIndex_isOk {record : JsonObj} (h : ReadableGpu py record) :
    ∃ r, gpuIndex py record = .ok r := by
  obtain ⟨gpu, hgpu, hindex, -⟩ := h
  exact Search.bind_isOk_iff.mpr ⟨gpu, hgpu, intOrSkip_isOk.mpr hindex⟩

/-- A record with a place has the index of it. -/
theorem gpuIndex_of_gpuPlace {record : JsonObj} {place : Int × Int}
    (h : gpuPlace py record = .ok (some place)) : gpuIndex py record = .ok (some place.1) := by
  obtain ⟨gpu, hgpu, h⟩ := Search.bind_eq_ok_iff.mp h
  obtain ⟨index, hindex, h⟩ := Search.bind_eq_ok_iff.mp h
  cases index with
  | none => cases h
  | some n =>
    obtain ⟨slot, -, h⟩ := Search.bind_eq_ok_iff.mp h
    cases slot with
    | none => cases h
    | some s =>
      cases h
      exact Search.bind_eq_ok_iff.mpr ⟨gpu, hgpu, hindex⟩

theorem activeRegistryRecords_isOk {registry : JsonObj} :
    (∃ records, activeRegistryRecords files registry = .ok records) ↔
      ∃ values, taskValues registry = .ok values ∧ ∀ value ∈ values, ReadableRecord value := by
  unfold activeRegistryRecords
  rw [Search.bind_isOk_iff]
  refine exists_congr fun values => and_congr_right fun _ => ?_
  rw [Search.bind_isOk_iff]
  constructor
  · rintro ⟨records, hrecords, -⟩ value hvalue
    exact activeRecord_isOk.mp (Search.mapM_isOk_iff.mp ⟨records, hrecords⟩ value hvalue)
  · intro h
    obtain ⟨records, hrecords⟩ :=
      Search.mapM_isOk_iff.mpr fun value hvalue => activeRecord_isOk.mpr (h value hvalue)
    exact ⟨records, hrecords, _, rfl⟩

theorem filterMap_id_map {α β : Type} (f : α → Option β) (l : List α) :
    (l.map f).filterMap id = l.filterMap f := by
  rw [List.filterMap_map]
  rfl

theorem activeRegistryRecords_eq {registry : JsonObj} {records : List JsonObj}
    (h : activeRegistryRecords files registry = .ok records) : records = activeOf files registry := by
  obtain ⟨values, hvalues, h⟩ := Search.bind_eq_ok_iff.mp h
  obtain ⟨results, hresults, h⟩ := Search.bind_eq_ok_iff.mp h
  cases h
  unfold activeOf
  rw [hvalues, Search.mapM_eq_map hresults, filterMap_id_map]

theorem join_toOption_eq_some {α : Type} {x : Except PyErr (Option α)} {a : α} :
    x.toOption.join = some a ↔ x = .ok (some a) := by
  cases x with
  | error e => simp [Except.toOption]
  | ok r => cases r <;> simp [Except.toOption]

theorem mem_activeOf {registry : JsonObj} {values : List Json}
    (hvalues : taskValues registry = .ok values) {record : JsonObj} :
    record ∈ activeOf files registry ↔
      ∃ value ∈ values, activeRecord files value = .ok (some record) := by
  unfold activeOf
  rw [hvalues, List.mem_filterMap]
  simp only [join_toOption_eq_some]

theorem occupiedSlots_isOk {registry : JsonObj} :
    (∃ occupied, occupiedSlots py files registry = .ok occupied) ↔
      Readable py files registry := by
  unfold occupiedSlots Readable
  rw [Search.bind_isOk_iff]
  constructor
  · rintro ⟨records, hrecords, h⟩
    obtain ⟨values, hvalues, hread⟩ := activeRegistryRecords_isOk.mp ⟨records, hrecords⟩
    refine ⟨values, hvalues, hread, fun value hvalue record hrecord => ?_⟩
    obtain ⟨places, hplaces, -⟩ := Search.bind_isOk_iff.mp h
    refine gpuPlace_isOk.mp (Search.mapM_isOk_iff.mp ⟨places, hplaces⟩ record ?_)
    rw [activeRegistryRecords_eq hrecords, mem_activeOf hvalues]
    exact ⟨value, hvalue, hrecord⟩
  · rintro ⟨values, hvalues, hread, hgpu⟩
    obtain ⟨records, hrecords⟩ := activeRegistryRecords_isOk.mpr ⟨values, hvalues, hread⟩
    refine ⟨records, hrecords, Search.bind_isOk_iff.mpr ?_⟩
    obtain ⟨places, hplaces⟩ : ∃ places, records.mapM (gpuPlace py) = .ok places := by
      refine Search.mapM_isOk_iff.mpr fun record hrecord => gpuPlace_isOk.mpr ?_
      rw [activeRegistryRecords_eq hrecords, mem_activeOf hvalues] at hrecord
      obtain ⟨value, hvalue, hactive⟩ := hrecord
      exact hgpu value hvalue record hactive
    exact ⟨places, hplaces, _, rfl⟩

theorem occupiedSlots_eq {registry : JsonObj} {occupied : List (Int × Int)}
    (h : occupiedSlots py files registry = .ok occupied) :
    occupied = (activeOf files registry).filterMap fun record =>
      (gpuPlace py record).toOption.join := by
  obtain ⟨records, hrecords, h⟩ := Search.bind_eq_ok_iff.mp h
  obtain ⟨places, hplaces, h⟩ := Search.bind_eq_ok_iff.mp h
  cases h
  rw [Search.mapM_eq_map hplaces, filterMap_id_map, activeRegistryRecords_eq hrecords]

theorem mem_occupiedSlots {registry : JsonObj} {occupied : List (Int × Int)}
    (h : occupiedSlots py files registry = .ok occupied) {gpu slot : Int} :
    (gpu, slot) ∈ occupied ↔ Occupied py files registry gpu slot := by
  rw [occupiedSlots_eq h, List.mem_filterMap]
  simp only [join_toOption_eq_some, Occupied]

/-- Where the slots can be read, the counts can. -/
theorem activeCounts_of_readable {registry : JsonObj} (h : Readable py files registry) :
    ∃ total, activeCounts py files registry = .ok (total, loadOf py files registry) := by
  obtain ⟨values, hvalues, hread, hgpu⟩ := h
  obtain ⟨records, hrecords⟩ := activeRegistryRecords_isOk.mpr ⟨values, hvalues, hread⟩
  have hactive := activeRegistryRecords_eq hrecords
  obtain ⟨indexes, hindexes⟩ : ∃ indexes, records.mapM (gpuIndex py) = .ok indexes := by
    refine Search.mapM_isOk_iff.mpr fun record hrecord => gpuIndex_isOk ?_
    rw [hactive, mem_activeOf hvalues] at hrecord
    obtain ⟨value, hvalue, hrecord⟩ := hrecord
    exact hgpu value hvalue record hrecord
  refine ⟨records.length, Search.bind_eq_ok_iff.mpr ⟨records, hrecords, Search.bind_eq_ok_iff.mpr
    ⟨indexes, hindexes, ?_⟩⟩⟩
  have hcount : (fun gpu => indexes.count (some gpu)) = loadOf py files registry := by
    funext gpu
    rw [Search.mapM_eq_map hindexes, loadOf, ← hactive, List.count, List.countP_map]
    refine List.countP_congr fun record _ => ?_
    simp
  rw [← hcount]
  rfl

end Parts

/-! ## The choice -/

/-- What the choice should be, given the load of the GPUs and the slots that are taken. -/
structure GoodChoice (load : Int → Nat) (taken : Int → Int → Prop) (inventory : List Gpu)
    (maxPerGpu : Int) (choice : Option (Gpu × Nat)) : Prop where
  none_iff : choice = none ↔ maxPerGpu ≤ 0 ∨ ∀ gpu ∈ inventory, maxPerGpu ≤ load gpu.index
  gpu : ∀ gpu slot, choice = some (gpu, slot) → gpu ∈ inventory ∧ ∀ gpu' ∈ inventory,
    load gpu.index < load gpu'.index ∨ (load gpu.index = load gpu'.index ∧ gpu.index ≤ gpu'.index)
  slot : ∀ gpu slot, choice = some (gpu, slot) → (slot : Int) < maxPerGpu ∧
    ¬ taken gpu.index slot ∧ ∀ slot' : Nat, slot' < slot → taken gpu.index slot'

/-- A place of the least load, seen through a limit that need not be positive. -/
theorem goodChoice_place {load : Int → Nat} {taken : Int → Int → Prop} {inventory : List Gpu}
    {maxPerGpu : Int} {occupied : List (Int × Int)}
    (htaken : ∀ gpu slot, (gpu, slot) ∈ occupied ↔ taken gpu slot)
    (hroom : ∀ gpu, load gpu < maxPerGpu.toNat →
      ∃ slot < maxPerGpu.toNat, (gpu, (slot : Int)) ∉ occupied) :
    GoodChoice load taken inventory maxPerGpu (Placement.place Gpu.index load
      (fun gpu slot => decide ((gpu, (slot : Int)) ∈ occupied)) maxPerGpu.toNat inventory) := by
  have hroom' : ∀ gpu, load gpu < maxPerGpu.toNat →
      ∃ slot < maxPerGpu.toNat, decide ((gpu, (slot : Int)) ∈ occupied) = false := by
    intro gpu hgpu
    obtain ⟨slot, hslot, hfree⟩ := hroom gpu hgpu
    exact ⟨slot, hslot, decide_eq_false hfree⟩
  refine ⟨?_, fun gpu slot h => ?_, fun gpu slot h => ?_⟩
  · rw [Placement.place_eq_none_iff hroom']
    constructor
    · intro h
      rcases Int.lt_or_le 0 maxPerGpu with hmax | hmax
      · refine .inr fun gpu hgpu => ?_
        have := h gpu hgpu
        omega
      · exact .inl hmax
    · rintro (hmax | h) gpu hgpu
      · omega
      · have := h gpu hgpu
        omega
  · obtain ⟨hgpu, hleast, -⟩ := Placement.place_spec hroom' h
    exact ⟨hgpu, fun gpu' hgpu' => Placement.before_iff.mp (hleast gpu' hgpu')⟩
  · obtain ⟨-, -, -, hslot, hfree, hbefore⟩ := Placement.place_spec hroom' h
    refine ⟨by omega, ?_, fun slot' hslot' => ?_⟩
    · rw [← htaken]
      exact of_decide_eq_false hfree
    · rw [← htaken]
      exact of_decide_eq_true (hbefore slot' hslot')

/-- The loop over the candidates, as a placement. -/
theorem candidates_eq_place {load : Int → Nat} {occupied : List (Int × Int)} {inventory : List Gpu}
    {maxPerGpu : Int} (hmax : 0 < maxPerGpu) :
    ((inventory.mergeSort fun a b => decide (load a.index < load b.index) ||
        (decide (load a.index = load b.index) && decide (a.index ≤ b.index))).findSome? fun gpu =>
      if maxPerGpu ≤ load gpu.index then none
      else ((List.range maxPerGpu.toNat).find? fun slot : Nat =>
        !occupied.contains (gpu.index, (slot : Int))).map fun slot => (gpu, slot)) =
    Placement.place Gpu.index load (fun gpu slot => decide ((gpu, (slot : Int)) ∈ occupied))
      maxPerGpu.toNat inventory := by
  unfold Placement.place
  congr 1
  funext gpu
  unfold Placement.firstFree
  have hlimit : maxPerGpu ≤ load gpu.index ↔ maxPerGpu.toNat ≤ load gpu.index := by omega
  simp only [hlimit, List.contains_eq_mem]

/-- `choose_available_slot` returns, and what it returns is the choice that it should make. -/
def ChoosesWell (m : Moment) (registry : JsonObj) (rows : List QueueRow) (maxPerGpu : Int) : Prop :=
  ∃ choice, chooseAvailableSlot py m registry rows maxPerGpu = .ok choice ∧
    GoodChoice (loadOf py m.files registry) (Occupied py m.files registry) (gpuInventory m rows)
      maxPerGpu choice

/-- One GPU, and no status files. -/
def oneGpu : Moment where
  files _ := .absent
  legacyWorkspace _ := false
  workspace _ := false
  problem _ := true
  gpus := [⟨0, "GPU-0"⟩]
  attempt := .failed "" none

/-- A registry with one task, which has this `gpu`. -/
def withGpu (gpu : Json) : JsonObj := [("tasks", .obj [("A", .obj [("gpu", gpu)])])]

end Akctl.Raw
