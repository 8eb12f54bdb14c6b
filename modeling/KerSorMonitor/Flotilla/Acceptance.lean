import KerSorMonitor.Lib.Sequential
import KerSorMonitor.Flotilla.Routes

/-!
# What the requests accept (`flotilla/routes.py`)

The checks of `POST /hosts` and of `_validate_task_create` as facts about what they let through.

Results:
1. `AcceptsHost.alias`: the ssh alias of an accepted host.
2. `Accepts.fields`: an accepted task is what was asked for.
3. `Accepts.checked`: what the checks have established of it.
-/

namespace Flotilla

open Keyed Threads

/-! ## Hosts -/

/-- `remote_root` is an absolute directory below `/` without control characters. -/
def isRemoteRoot (s : String) : Bool :=
  s.toList.length ≤ 1024 && s.toList.all (fun c => 32 ≤ c.toNat) && s.toList.head? = some '/' &&
    s ≠ "/"

/-- `create_host`. -/
def createHost (h : Host) : Program Unit := do
  checkId (some h.id) "host id"
  checkId (some h.sshAlias) "ssh_alias"
  if !isRemoteRoot h.remoteRoot then
    httpException 400 "remote_root must be a safe absolute directory below /"
  else
    match ← store (.getHost h.id) with
    | some _ => httpException 409 ("host " ++ h.id ++ " already exists")
    | none => store (.createHost h)

/-- `POST /hosts` accepts the host. -/
def AcceptsHost (settings : Settings) (h : Host) : Prop :=
  ∃ t envs w w', (createHost h).perform (process settings) t envs w = some (.ok (), w')

/-- The request checks accept `item`, and make it the row `task`. -/
def Accepts (settings : Settings) (pid : String) (item : TaskCreate) (task : Task) : Prop :=
  ∃ t envs w w', (validateTaskCreate settings pid item).perform (process settings) t envs w =
    some (.ok task, w')

/-! ## What the checks establish -/

/-- What the checks of a request have established of its task. -/
structure Checked (settings : Settings) (task : Task) : Prop where
  runtime : ∃ rt, Runtime.get task.runtime = .ok rt ∧
    ((nonEmpty? task.targetHost).isSome = true → rt.supportsRemote = true)
  resource : ∀ kind, task.resourceKind = some kind → ∃ adapter, resourceGet kind = .ok adapter ∧
    (adapter = "gpu" →
      ((task.resourceReq.get? "uuid").bind Json.str?).any Resource.isSafeId = true)
  effort : isEffort (task.metadata.get? "effort") = true
  bootCommand : (task.metadata.get? "boot_command").isSome = true →
    settings.allowTaskBootCommand = true

namespace AcceptanceLemmas

theorem returns_checkId (value : Option String) (label : String) :
    (checkId value label).Returns fun _ => value.any Resource.isSafeId = true := by
  unfold checkId
  split
  · next h => exact h
  · trivial

theorem returns_badRequestOf {α : Type} (r : Except PyErr α) :
    (badRequestOf r).Returns fun a => r = .ok a := by
  cases r with
  | ok a => exact rfl
  | error e =>
    unfold badRequestOf
    dsimp only
    split <;> trivial

theorem returns_validateRuntime (item : TaskCreate) :
    (validateRuntime item).Returns fun _ => ∃ rt, Runtime.get item.runtime = .ok rt ∧
      ((nonEmpty? item.targetHost).isSome = true → rt.supportsRemote = true) := by
  unfold validateRuntime
  cases hhost : nonEmpty? item.targetHost with
  | none =>
    refine Prog.Returns.bind (returns_badRequestOf _) fun rt hrt => ?_
    exact ⟨rt, hrt, fun h => by cases h⟩
  | some hid =>
    refine Prog.Returns.bind (Prog.returns_any _) fun _ _ => ?_
    refine Prog.Returns.bind (Prog.returns_any _) fun host _ => ?_
    cases host with
    | none => trivial
    | some _ =>
      refine Prog.Returns.bind (returns_badRequestOf _) fun rt hrt => ?_
      by_cases hremote : rt.supportsRemote = true
      · rw [if_pos hremote]
        exact ⟨rt, hrt, fun _ => hremote⟩
      · rw [if_neg hremote]
        trivial

theorem returns_validateResource (item : TaskCreate) :
    (validateResource item).Returns fun _ =>
      ∀ kind, (item.resourceReq.get? "kind").filter Json.truthy = some kind →
        ∃ adapter, resourceGet kind = .ok adapter ∧ (adapter = "gpu" →
          ((item.resourceReq.get? "uuid").bind Json.str?).any Resource.isSafeId = true) := by
  unfold validateResource
  cases hkind : (item.resourceReq.get? "kind").filter Json.truthy with
  | none => exact fun kind h => by cases h
  | some kind =>
    refine Prog.Returns.bind (returns_badRequestOf _) fun adapter hadapter => ?_
    by_cases hgpu : adapter = "gpu"
    · rw [if_pos hgpu]
      refine (returns_checkId _ _).mono fun _ hsafe => ?_
      rintro _ ⟨⟩
      exact ⟨adapter, hadapter, fun _ => hsafe⟩
    · rw [if_neg hgpu]
      rintro _ ⟨⟩
      exact ⟨adapter, hadapter, fun h => absurd h hgpu⟩

theorem returns_validateMetadata (settings : Settings) (item : TaskCreate) :
    (validateMetadata settings item).Returns fun _ =>
      isEffort (item.metadata.get? "effort") = true ∧
        ((item.metadata.get? "boot_command").isSome = true →
          settings.allowTaskBootCommand = true) := by
  unfold validateMetadata
  by_cases heffort : isEffort (item.metadata.get? "effort") = true
  · rw [if_neg (by simp [heffort])]
    by_cases hboot : ((item.metadata.get? "boot_command").isSome &&
        !settings.allowTaskBootCommand) = true
    · rw [if_pos hboot]
      trivial
    · rw [if_neg hboot]
      refine (Prog.returns_any _).mono fun _ _ => ⟨heffort, fun hsome => ?_⟩
      simpa [hsome] using hboot
  · rw [if_pos (by simpa using heffort)]
    trivial

/-- The row has the fields of the request, and the checks hold of it. -/
theorem returns_validateTaskCreate (settings : Settings) (pid : String) (item : TaskCreate) :
    (validateTaskCreate settings pid item).Returns fun task => Checked settings task ∧
      task.id = item.id ∧ task.runtime = item.runtime ∧ task.targetHost = item.targetHost ∧
        task.resourceReq = item.resourceReq ∧ task.metadata = item.metadata := by
  unfold validateTaskCreate
  refine Prog.Returns.bind (Prog.returns_any _) fun _ _ => ?_
  refine Prog.Returns.bind (returns_validateRuntime item) fun _ hruntime => ?_
  refine Prog.Returns.bind (returns_validateResource item) fun _ hresource => ?_
  refine Prog.Returns.bind (Prog.returns_any _) fun _ _ => ?_
  refine Prog.Returns.bind (returns_validateMetadata settings item) fun _ hmetadata => ?_
  refine Prog.Returns.bind (Prog.returns_any _) fun _ _ => ?_
  exact ⟨⟨hruntime, hresource, hmetadata.1, hmetadata.2⟩, rfl, rfl, rfl, rfl, rfl⟩

theorem returns_createHost (h : Host) :
    (createHost h).Returns fun _ => Resource.isSafeId h.sshAlias = true := by
  unfold createHost
  refine Prog.Returns.bind (Prog.returns_any _) fun _ _ => ?_
  refine Prog.Returns.bind (returns_checkId _ _) fun _ halias => ?_
  exact (Prog.returns_any _).mono fun _ _ => halias

end AcceptanceLemmas

open AcceptanceLemmas

theorem AcceptsHost.alias {settings : Settings} {h : Host} (hhost : AcceptsHost settings h) :
    Resource.isSafeId h.sshAlias = true := by
  obtain ⟨t, envs, w, w', hperform⟩ := hhost
  exact Prog.perform_returns (returns_createHost h) hperform

namespace Accepts

variable {settings : Settings} {pid : String} {item : TaskCreate} {task : Task}

theorem fields (h : Accepts settings pid item task) :
    task.id = item.id ∧ task.runtime = item.runtime ∧ task.targetHost = item.targetHost ∧
      task.resourceReq = item.resourceReq ∧ task.metadata = item.metadata := by
  obtain ⟨t, envs, w, w', hperform⟩ := h
  exact (Prog.perform_returns (returns_validateTaskCreate settings pid item) hperform).2

theorem checked (h : Accepts settings pid item task) : Checked settings task := by
  obtain ⟨t, envs, w, w', hperform⟩ := h
  exact (Prog.perform_returns (returns_validateTaskCreate settings pid item) hperform).1

end Accepts

end Flotilla
