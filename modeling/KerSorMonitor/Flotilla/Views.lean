import KerSorMonitor.Flotilla.JsonTrees
import KerSorMonitor.Flotilla.Sinks

/-!
# Payloads of tasks (`flotilla/sinks/__init__.py`, `flotilla/routes.py`)

`build_task_view` as the dictionary that it returns, and the answers of the two routes that return
it. `Sinks.buildTaskView` is the same view without its fields' names.

Results:
1. `buildTaskView_eq_append`: a payload is what the row says, the telemetry and the mark of a
   tombstone, with no key in common.
2. `dict_buildTaskView`: what the sinks are given is this payload.
3. `ignores_private_iff`: which tasks have payloads that do not depend on private metadata.
-/

namespace Flotilla

open Keyed

namespace JsonObj

theorem get?_append (d d' : JsonObj) (k : String) :
    get? (d ++ d') k = (get? d k).or (get? d' k) := by
  unfold get?
  rw [List.find?_append, Option.map_or]

/-- New keys come at the end. -/
theorem set_of_not_mem {d : JsonObj} {k : String} (h : k ∉ d.map Prod.fst) (v : Json) :
    d.set k v = d ++ [(k, v)] := by
  have hany : (d.any fun kv => kv.1 = k) = false := by
    rw [List.any_eq_false]
    intro kv hkv
    simp only [decide_eq_true_eq]
    rintro rfl
    exact h (List.mem_map_of_mem hkv)
  simp [set, hany]

/-- The union of dictionaries with no key in common. -/
theorem update_of_disjoint {d other : JsonObj} (hnd : (other.map Prod.fst).Nodup)
    (h : (d.map Prod.fst).Disjoint (other.map Prod.fst)) : d.update other = d ++ other := by
  induction other generalizing d with
  | nil => simp [update]
  | cons kv other ih =>
    rw [List.map_cons, List.nodup_cons] at hnd
    rw [List.map_cons, List.disjoint_cons_right] at h
    have hset : d.set kv.1 kv.2 = d ++ [kv] := set_of_not_mem h.1 kv.2
    have hdisjoint : ((d ++ [kv]).map Prod.fst).Disjoint (other.map Prod.fst) := by
      rw [List.map_append, List.disjoint_append_left]
      exact ⟨h.2, List.disjoint_cons_left.mpr ⟨hnd.1, List.disjoint_nil_left _⟩⟩
    show (d.set kv.1 kv.2).update other = _
    rw [hset, ih hnd.2 hdisjoint, List.append_assoc]
    rfl

end JsonObj

/-- `task.model_dump()`. -/
def Task.modelDump (t : Task) : JsonObj :=
  [("id", .str t.id), ("project_id", .str t.projectId), ("name", .str t.name),
   ("spec", .str t.spec), ("state", .str t.state.name),
   ("workspace_path", .ofOption t.workspacePath), ("runtime", .str t.runtime),
   ("target_host", .ofOption t.targetHost), ("resource_req", .obj t.resourceReq),
   ("evaluator", .ofOption t.evaluator), ("owner", .ofOption t.owner),
   ("metadata", .obj t.metadata), ("created_at", .str t.createdAt),
   ("updated_at", .str t.updatedAt)]

namespace Views

/-! ## Payloads -/

/-- What the row of a task contributes to its payload. -/
def persisted (task : Task) (includeSpec : Bool) : JsonObj :=
  let dumped := task.modelDump.set "metadata" (.obj (Sinks.publicMetadata task.metadata))
  if includeSpec then dumped else dumped.filter fun kv => kv.1 ≠ "spec"

/-- `build_task_view`. -/
def buildTaskView (db : Db) (task : Task) (status : Option JsonObj) (deleted includeSpec : Bool) :
    JsonObj :=
  let status := status.getD (Sinks.latestStatus task.id db)
  ((persisted task includeSpec).update (Sinks.telemetry status)).set "deleted" (.bool deleted)

/-- The keys of `persisted` besides `spec`. -/
def lifecycleKeys : List String :=
  ["id", "project_id", "name", "state", "workspace_path", "runtime", "target_host", "resource_req",
   "evaluator", "owner", "metadata", "created_at", "updated_at"]

/-- The keys of the telemetry. -/
def telemetryKeys : List String := Sinks.statusDefaults.map Prod.fst

theorem persisted_eq (task : Task) (includeSpec : Bool) :
    persisted task includeSpec =
      [("id", .str task.id), ("project_id", .str task.projectId), ("name", .str task.name)] ++
      (if includeSpec then [("spec", .str task.spec)] else []) ++
      [("state", .str task.state.name), ("workspace_path", .ofOption task.workspacePath),
       ("runtime", .str task.runtime), ("target_host", .ofOption task.targetHost),
       ("resource_req", .obj task.resourceReq), ("evaluator", .ofOption task.evaluator),
       ("owner", .ofOption task.owner),
       ("metadata", .obj (Sinks.publicMetadata task.metadata)),
       ("created_at", .str task.createdAt), ("updated_at", .str task.updatedAt)] := by
  cases includeSpec <;> simp [persisted, Task.modelDump, JsonObj.set]

theorem telemetry_keys (status : JsonObj) :
    (Sinks.telemetry status).map Prod.fst = telemetryKeys := by
  unfold Sinks.telemetry telemetryKeys
  rw [List.map_map]
  rfl

theorem persisted_keys (task : Task) (includeSpec : Bool) :
    ∀ k ∈ (persisted task includeSpec).map Prod.fst, k ∈ "spec" :: lifecycleKeys := by
  rw [persisted_eq]
  cases includeSpec <;> simp [lifecycleKeys]

/-- The three parts of a payload have no key in common. -/
theorem buildTaskView_eq_append (db : Db) (task : Task) (status : Option JsonObj)
    (deleted includeSpec : Bool) :
    buildTaskView db task status deleted includeSpec =
      persisted task includeSpec ++
        Sinks.telemetry (status.getD (Sinks.latestStatus task.id db)) ++
        [("deleted", .bool deleted)] := by
  have hnodup : telemetryKeys.Nodup := by decide
  have hapart : ∀ k ∈ "spec" :: lifecycleKeys, k ∉ telemetryKeys := by decide
  have hnew : "deleted" ∉ ("spec" :: lifecycleKeys) ++ telemetryKeys := by decide
  unfold buildTaskView
  dsimp only
  generalize hst : status.getD (Sinks.latestStatus task.id db) = st
  have hkeys := telemetry_keys st
  rw [JsonObj.update_of_disjoint (by rw [hkeys]; exact hnodup)
    (by rw [hkeys]; exact fun k hk => hapart k (persisted_keys task includeSpec k hk))]
  refine JsonObj.set_of_not_mem ?_ _
  rw [List.map_append, hkeys]
  intro h
  refine hnew (List.mem_append.mpr ?_)
  exact (List.mem_append.mp h).imp (persisted_keys task includeSpec _) id

/-! ## The view of the sinks -/

/-- A view as the dictionary that it stands for. -/
def dict (v : Sinks.View) : JsonObj :=
  [("id", .str v.id), ("project_id", .ofOption v.projectId), ("name", .str v.body.name),
   ("state", .str v.body.state.name), ("workspace_path", .ofOption v.body.workspacePath),
   ("runtime", .str v.body.runtime), ("target_host", .ofOption v.body.targetHost),
   ("resource_req", .obj v.body.resourceReq), ("evaluator", .ofOption v.body.evaluator),
   ("owner", .ofOption v.body.owner), ("metadata", .obj v.body.metadata),
   ("created_at", .str v.body.createdAt), ("updated_at", .str v.body.updatedAt)] ++
  v.body.telemetry ++ [("deleted", .bool v.deleted)]

/-- What the sinks are given is the payload without `spec`. -/
theorem dict_buildTaskView (db : Db) (task : Task) (status : Option JsonObj) (deleted : Bool) :
    dict (Sinks.buildTaskView task (status.getD (Sinks.latestStatus task.id db)) deleted) =
      buildTaskView db task status deleted false := by
  rw [buildTaskView_eq_append, persisted_eq]
  rfl

/-! ## What a payload shows of the row -/

theorem get?_persisted_metadata (task : Task) (includeSpec : Bool) :
    (persisted task includeSpec).get? "metadata" =
      some (.obj (Sinks.publicMetadata task.metadata)) := by
  rw [persisted_eq]
  cases includeSpec <;> simp [JsonObj.get?]

/-- Every field of the row but `spec` is in the payload. -/
theorem isSome_get?_persisted (task : Task) (includeSpec : Bool) {k : String}
    (hk : k ∈ lifecycleKeys) : ((persisted task includeSpec).get? k).isSome := by
  have hmem : k ∈ (persisted task includeSpec).map Prod.fst := by
    rw [persisted_eq]
    cases includeSpec
    · exact hk
    · simp only [lifecycleKeys] at hk
      simp only [if_true, List.map_cons, List.map_nil, List.cons_append,
        List.nil_append, List.mem_cons] at hk ⊢
      tauto
  obtain ⟨kv, hkv, rfl⟩ := List.mem_map.mp hmem
  unfold JsonObj.get?
  rw [Option.isSome_map, List.find?_isSome]
  exact ⟨kv, hkv, decide_eq_true rfl⟩

/-- The fields of the row are not touched by the telemetry. -/
theorem get?_lifecycle (db : Db) (task : Task) (status : Option JsonObj)
    (deleted includeSpec : Bool) {k : String} (hk : k ∈ lifecycleKeys) :
    (buildTaskView db task status deleted includeSpec).get? k =
      (persisted task includeSpec).get? k := by
  obtain ⟨v, hv⟩ := Option.isSome_iff_exists.mp (isSome_get?_persisted task includeSpec hk)
  rw [buildTaskView_eq_append, List.append_assoc, JsonObj.get?_append, hv, Option.some_or]

/-! ## Private metadata -/

/-- The keys of the metadata that are not published. -/
def isPrivate (key : String) : Bool :=
  let key := pyLower key
  Sinks.privateMetadataKeys.contains key ||
    Sinks.privateMetadataFragments.any fun fragment => containsText fragment.toList key.toList

theorem publicMetadata_eq (metadata : JsonObj) :
    Sinks.publicMetadata metadata = metadata.filter fun kv => !isPrivate kv.1 := by
  simp [Sinks.publicMetadata, isPrivate]

/-- The tasks are equal but for what stands under private keys of the metadata, at any depth. -/
def SameButPrivate (t t' : Task) : Prop :=
  { t with metadata := [] } = { t' with metadata := [] } ∧
    (Json.obj t.metadata).mask isPrivate = (Json.obj t'.metadata).mask isPrivate

/-- No private key occurs inside a published value. -/
def NoNestedPrivate (metadata : JsonObj) : Prop :=
  ∀ kv ∈ metadata, isPrivate kv.1 = false → kv.2.lacks isPrivate = true

/-- If no private key occurs inside a published value, what is published is determined by what is
left when the private values are blotted out. -/
theorem publicMetadata_of_mask_eq {kvs kvs' : JsonObj} (hnone : NoNestedPrivate kvs)
    (h : Json.rewriteMembersAt isPrivate (fun _ => .null) kvs =
      Json.rewriteMembersAt isPrivate (fun _ => .null) kvs') :
    Sinks.publicMetadata kvs = Sinks.publicMetadata kvs' := by
  rw [publicMetadata_eq, publicMetadata_eq]
  rw [Json.rewriteMembersAt_eq_map, Json.rewriteMembersAt_eq_map] at h
  induction kvs generalizing kvs' with
  | nil =>
    have hnil : kvs' = [] := List.map_eq_nil_iff.mp h.symm
    rw [hnil]
  | cons kv kvs ih =>
    cases kvs' with
    | nil => cases h
    | cons kv' kvs' =>
      obtain ⟨hkv, hkvs⟩ := List.cons.inj h
      obtain ⟨hkey, hvalue⟩ := Prod.mk.inj hkv
      have hrest := ih (fun x hx => hnone x (.tail _ hx)) hkvs
      rw [← hkey] at hvalue
      by_cases hpriv : isPrivate kv.1 = true
      · have hpriv' : isPrivate kv'.1 = true := hkey ▸ hpriv
        simp [hpriv, hpriv', hrest]
      · rw [if_neg hpriv, if_neg hpriv] at hvalue
        rw [Bool.not_eq_true] at hpriv
        have hpriv' : isPrivate kv'.1 = false := hkey ▸ hpriv
        have heq : kv.2 = kv'.2 := Json.eq_of_mask_eq (hnone kv (.head _) hpriv) hvalue
        have hpair : kv = kv' := Prod.ext hkey heq
        simp [hpriv', hrest, hpair]

/-- A rewriting of the private values that is not seen in what is published has nothing to rewrite
there. -/
theorem noNestedPrivate_of_rewrite {f : Json → Json} (hf : ∀ v, f v ≠ v) {kvs : JsonObj}
    (h : Sinks.publicMetadata (Json.rewriteMembersAt isPrivate f kvs) = Sinks.publicMetadata kvs) :
    NoNestedPrivate kvs := by
  rw [publicMetadata_eq, publicMetadata_eq, Json.rewriteMembersAt_eq_map] at h
  induction kvs with
  | nil => exact fun _ hkv => absurd hkv List.not_mem_nil
  | cons kv kvs ih =>
    rw [List.map_cons, List.filter_cons, List.filter_cons] at h
    by_cases hpriv : isPrivate kv.1 = true
    · rw [if_neg (by simp [hpriv]), if_neg (by simp [hpriv])] at h
      intro x hx hpub
      rcases List.mem_cons.mp hx with rfl | hx
      · exact absurd hpriv (by simp [hpub])
      · exact ih h x hx hpub
    · rw [Bool.not_eq_true] at hpriv
      simp only [hpriv, Bool.not_false, if_true, Bool.false_eq_true, if_false] at h
      obtain ⟨hkv, hkvs⟩ := List.cons.inj h
      have hvalue : kv.2.rewriteAt isPrivate f = kv.2 := congrArg Prod.snd hkv
      intro x hx hpub
      rcases List.mem_cons.mp hx with rfl | hx
      · exact (Json.rewriteAt_eq_self_iff hf x.2).mp hvalue
      · exact ih hkvs x hx hpub

/-- A payload is the same for all tasks that differ in private values only iff no private key occurs
inside a value that is published: only the keys of the metadata itself are looked at. -/
theorem ignores_private_iff (t : Task) :
    (∀ t', SameButPrivate t t' → ∀ db status deleted includeSpec,
      buildTaskView db t status deleted includeSpec =
        buildTaskView db t' status deleted includeSpec) ↔
      NoNestedPrivate t.metadata := by
  constructor
  · intro hall
    have hf : ∀ v : Json, Json.arr [v] ≠ v := by
      intro v h
      have hsize := congrArg sizeOf h
      simp at hsize
      omega
    -- a task with another value under each private key
    have hsame : SameButPrivate t
        { t with
          metadata := Json.rewriteMembersAt isPrivate (fun v => .arr [v]) t.metadata } := by
      have htwice := Json.rewriteMembersAt_rewriteMembersAt (p := isPrivate)
        (f := fun v => Json.arr [v]) (g := fun _ => Json.null) t.metadata
      exact ⟨rfl, congrArg Json.obj htwice.symm⟩
    have hpayload := hall _ hsame Db.init none false true
    have hmetadata := congrArg (JsonObj.get? · "metadata") hpayload
    have hkey : "metadata" ∈ lifecycleKeys := by decide
    simp only [get?_lifecycle _ _ _ _ _ hkey, get?_persisted_metadata, Option.some.injEq,
      Json.obj.injEq] at hmetadata
    exact noNestedPrivate_of_rewrite hf hmetadata.symm
  · rintro hnone t' ⟨hrest, hmask⟩ db status deleted includeSpec
    have hpublic := publicMetadata_of_mask_eq hnone (Json.obj.inj hmask)
    have hid : t.id = t'.id := (congrArg Task.id hrest :)
    have hpersisted : persisted t includeSpec = persisted t' includeSpec := by
      rw [persisted_eq, persisted_eq, hpublic]
      simp only [Task.mk.injEq] at hrest
      obtain ⟨_, _, _, _, _, _, _, _, _, _, _, -, _, _⟩ := hrest
      simp only [*]
    unfold buildTaskView
    rw [hpersisted, hid]

/-- A task with a token in its environment. -/
private def withToken (token : String) : Task :=
  { id := "t", name := "n", spec := "s",
    metadata := [("env", .obj [("api_token", .str token)])] }

/-- A token one level down is published. -/
theorem nested_token_is_published :
    SameButPrivate (withToken "a") (withToken "b") ∧
      buildTaskView Db.init (withToken "a") none false true ≠
        buildTaskView Db.init (withToken "b") none false true := by
  have hpriv : isPrivate "api_token" = true := by decide
  have hpub : isPrivate "env" = false := by decide
  refine ⟨⟨rfl, ?_⟩, fun h => ?_⟩
  · simp [withToken, Json.mask, Json.rewriteAt, Json.rewriteMembersAt, hpriv, hpub]
  · have hkey : "metadata" ∈ lifecycleKeys := by decide
    have hmetadata := congrArg (JsonObj.get? · "metadata") h
    simp [get?_lifecycle _ _ _ _ _ hkey, get?_persisted_metadata, publicMetadata_eq, withToken,
      hpub] at hmetadata

end Views

end Flotilla
