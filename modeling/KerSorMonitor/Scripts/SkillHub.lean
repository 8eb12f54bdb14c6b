import KerSorMonitor.Lib.Paths
import KerSorMonitor.Lib.Threads

/-!
# The skill hub (`scripts/skill_hub.py`)

A manifest names skills, their sources and versions. `sync_skill_hub` copies each source to a version
directory of the hub and points an active link to it, `link_workspace_skills` links the active skills
into a workspace. The names and versions are joined into paths as they are.

Results:
1. `contained_iff`: the manifests whose skills stay in the hub and leave each other alone.
2. `tidy_of_components`: names and versions that are ordinary components do.
-/

namespace SkillHub

open Paths Threads
open Prog (call)

/-! ## The manifest -/

/-- A YAML value. A scalar that is not a string has its text and its truth value; the texts of
collections are those of Python. -/
inductive Value
  | null
  | str (s : String)
  | scalar (truthy : Bool) (text : String)
  | list (items : List Value) (text : String)
  | map (entries : List (String × Value)) (text : String)

/-- Python's truth value. -/
def Value.truthy : Value → Bool
  | .null => false
  | .str s => s ≠ ""
  | .scalar truthy _ => truthy
  | .list items _ => !items.isEmpty
  | .map entries _ => !entries.isEmpty

/-- Python's `str`. -/
def Value.text : Value → String
  | .null => "None"
  | .str s => s
  | .scalar _ text => text
  | .list _ text => text
  | .map _ text => text

/-- `item.get(key)`. -/
def get (entries : List (String × Value)) (key : String) : Value := (entries.lookup key).getD .null

/-- A skill of the normalised manifest. -/
structure Skill where
  name : String
  source : String
  version : String
  targets : List String
  deriving DecidableEq, Repr

/-- `DEFAULT_TARGETS`. -/
def defaultTargets : List String := ["claude", "codex"]

/-- `str(item.get(key) or "").strip()`. -/
def field (strip : String → String) (entries : List (String × Value)) (key : String) : String :=
  if (get entries key).truthy then strip (get entries key).text else strip ""

/-- The targets of a skill. -/
def cleanTargets (strip : String → String) (name : String) : Value → Except String (List String)
  | .list (item :: items) _ =>
    (item :: items).mapM fun target =>
      if strip target.text ∈ defaultTargets then .ok (strip target.text)
      else .error (name ++ " has unsupported target: " ++ strip target.text)
  | value =>
    if value.truthy then .error (name ++ " targets must be a non-empty list") else .ok defaultTargets

/-- One item of the list. -/
def normalizeItem (strip : String → String) (index : Nat) (seen : List String) :
    Value → Except String Skill
  | .map item _ => do
    let name := field strip item "name"
    let source := field strip item "source"
    let version := field strip item "version"
    if name = "" then throw ("skills[" ++ toString index ++ "] is missing name")
    if name ∈ seen then throw ("duplicate skill in manifest: " ++ name)
    if source = "" then throw (name ++ " is missing source")
    if version = "" then throw (name ++ " is missing version")
    return ⟨name, source, version, ← cleanTargets strip name (get item "targets")⟩
  | _ => throw ("skills[" ++ toString index ++ "] must be a mapping")

def normalizeItems (strip : String → String) (index : Nat) (seen : List String) :
    List Value → Except String (List Skill)
  | [] => return []
  | item :: items => do
    let skill ← normalizeItem strip index seen item
    return skill :: (← normalizeItems strip (index + 1) (skill.name :: seen) items)

/-- `normalize_manifest`. -/
def normalizeManifest (strip : String → String) (data : List (String × Value)) :
    Except String (List Skill) :=
  match get data "skills" with
  | .list (item :: items) _ => normalizeItems strip 0 [] (item :: items)
  | _ => throw "manifest must contain a non-empty 'skills' list"

/-! ## Paths -/

def hubDir (root : Path) : Path := root.join "skill_hub"

def activeSkillPath (root : Path) (skillName : String) : Path :=
  ((hubDir root).join "active").join skillName

def versionSkillPath (root : Path) (skillName version : String) : Path :=
  (((hubDir root).join "versions").join skillName).join version

def workspaceSkillLink (workspace : Path) (target skillName : String) : Path :=
  ((workspace.join (if target = "claude" then ".claude" else ".codex")).join "skills").join skillName

/-! ## What the operating system does -/

/-- The calls, each of which may raise an exception. -/
inductive Act : Type → Type 1
  | isDir (p : Path) : Act Bool
  | isFile (p : Path) : Act Bool
  | present (p : Path) : Act Bool
  | isSymlink (p : Path) : Act Bool
  | readlink (p : Path) : Act String
  | mkdirParents (p : Path) : Act Unit
  | rmtree (p : Path) : Act Unit
  | copytree (source target : Path) : Act Unit
  | replace (source target : Path) : Act Unit
  | unlink (p : Path) : Act Unit
  | symlinkTo (link : Path) (target : String) : Act Unit

abbrev HubProg := Prog Act String

/-- The places that a call creates, replaces or deletes. `there` are the directories that exist:
`mkdir` creates those on the way that are missing. -/
def Act.Touches (cwd : Location) (there : Location → Prop) : {α : Type} → Act α → Location → Prop
  | _, .mkdirParents p, loc => ¬ there loc ∧ ∃ q ∈ p.above, q.resolve cwd = loc
  | _, .rmtree p, loc => p.resolve cwd = loc
  | _, .copytree _ target, loc => target.resolve cwd = loc
  | _, .replace source target, loc => source.resolve cwd = loc ∨ target.resolve cwd = loc
  | _, .unlink p, loc => p.resolve cwd = loc
  | _, .symlinkTo link _, loc => link.resolve cwd = loc
  | _, _, _ => False

/-- The places at which a call removes what is there, or puts something else. -/
def Act.Removes (cwd : Location) : {α : Type} → Act α → Location → Prop
  | _, .rmtree p, loc => p.resolve cwd = loc
  | _, .replace source target, loc => source.resolve cwd = loc ∨ target.resolve cwd = loc
  | _, .unlink p, loc => p.resolve cwd = loc
  | _, .symlinkTo link _, loc => link.resolve cwd = loc
  | _, _, _ => False

/-! ## Synchronisation -/

structure LinkReport where
  path : Path
  target : String
  status : String
  deriving DecidableEq, Repr

/-- Whether the link is there and has this text. -/
def isLinkedTo (link : Path) (text : String) : HubProg Bool := do
  if ← call (.isSymlink link) then return (← call (.readlink link)) == text
  else return false

/-- `link.exists() or link.is_symlink()`. -/
def occupied (link : Path) : HubProg Bool := do
  if ← call (.present link) then return true
  else call (.isSymlink link)

/-- `link.is_dir() and not link.is_symlink()`. -/
def isRealDir (link : Path) : HubProg Bool := do
  if ← call (.isDir link) then return !(← call (.isSymlink link))
  else return false

/-- Remove what is in the place of a link. -/
def clearLink (link : Path) : HubProg Unit := do
  if ← occupied link then
    if ← isRealDir link then call (.rmtree link) else call (.unlink link)
  else pure ()

/-- `_replace_symlink`. -/
def replaceSymlink (cwd : Location) (link target : Path) (dryRun : Bool) : HubProg LinkReport := do
  let relTarget := relpath cwd target link.parent
  if ← isLinkedTo link relTarget then return ⟨link, relTarget, "ok"⟩
  else if dryRun then return ⟨link, relTarget, "would_link"⟩
  else
    clearLink link
    call (.mkdirParents link.parent)
    call (.symlinkTo link relTarget)
    return ⟨link, relTarget, "linked"⟩

structure SyncReport where
  name : String
  source : String
  version : String
  versionPath : Path
  activePath : Path
  status : String
  deriving DecidableEq, Repr

/-- Remove a directory, if it is there. -/
def removeIfPresent (p : Path) : HubProg Unit := do
  if ← call (.present p) then call (.rmtree p) else pure ()

/-- The part of an iteration of `sync_skill_hub` that changes the hub. -/
def installVersion (cwd : Location) (source target active : Path) : HubProg Unit := do
  call (.mkdirParents target.parent)
  match target.withSuffix ".tmp" with
  | none => .throw "ValueError: the path has an empty name"
  | some tmp =>
    removeIfPresent tmp
    call (.copytree source tmp)
    removeIfPresent target
    call (.replace tmp target)
    let _ ← replaceSymlink cwd active target false
    return ()

/-- An iteration of `sync_skill_hub`. -/
def syncSkill (cwd : Location) (root : Path) (dryRun : Bool) (skill : Skill) : HubProg SyncReport := do
  let source := parse skill.source
  let target := versionSkillPath root skill.name skill.version
  let active := activeSkillPath root skill.name
  if !(← call (.isDir source)) then
    .throw (skill.name ++ " source missing or not a directory: " ++ source.render)
  else if !(← call (.isFile (source.join "SKILL.md"))) then
    .throw (skill.name ++ " source missing SKILL.md: " ++ source.render)
  else if dryRun then
    return ⟨skill.name, source.render, skill.version, target, active, "would_sync"⟩
  else
    installVersion cwd source target active
    return ⟨skill.name, source.render, skill.version, target, active, "synced"⟩

/-- `sync_skill_hub`, for the skills of its manifest. -/
def syncSkillHub (cwd : Location) (root : Path) (dryRun : Bool) :
    List Skill → HubProg (List SyncReport)
  | [] => return []
  | skill :: skills => do
    let report ← syncSkill cwd root dryRun skill
    return report :: (← syncSkillHub cwd root dryRun skills)

/-! ## Workspaces -/

/-- `link.exists() and not link.is_symlink() and not replace`. -/
def keepsExisting (link : Path) (replace : Bool) : HubProg Bool := do
  if ← call (.present link) then return !(← call (.isSymlink link)) && !replace
  else return false

/-- A link into a workspace. -/
def linkTarget (cwd : Location) (link active : Path) (replace dryRun : Bool) : HubProg LinkReport := do
  if ← keepsExisting link replace then return ⟨link, active.render, "existing_non_symlink"⟩
  else replaceSymlink cwd link active dryRun

def linkTargets (cwd : Location) (workspace active : Path) (skillName : String)
    (replace dryRun : Bool) : List String → HubProg (List LinkReport)
  | [] => return []
  | target :: targets => do
    let link := workspaceSkillLink workspace target skillName
    let report ← linkTarget cwd link active replace dryRun
    return report :: (← linkTargets cwd workspace active skillName replace dryRun targets)

/-- `link_workspace_skills`, for the skills of its manifest. -/
def linkWorkspaceSkills (cwd : Location) (root workspace : Path) (replace dryRun : Bool) :
    List Skill → HubProg (List LinkReport)
  | [] => return []
  | skill :: skills => do
    let active := activeSkillPath root skill.name
    if !(← call (.present active)) then .throw ("active skill missing: " ++ active.render)
    else if !(← call (.isFile (active.join "SKILL.md"))) then
      .throw ("active skill missing SKILL.md: " ++ active.render)
    else
      let reports ← linkTargets cwd workspace active skill.name replace dryRun skill.targets
      return reports ++ (← linkWorkspaceSkills cwd root workspace replace dryRun skills)

/-! ## What the programs can do -/

/-- A call that changes nothing. -/
def Act.Query : {α : Type} → Act α → Prop
  | _, .isDir _ | _, .isFile _ | _, .present _ | _, .isSymlink _ | _, .readlink _ => True
  | _, _ => False

/-- The program only asks, and can get either answer. -/
structure Asks (p : HubProg Bool) : Prop where
  queries : p.All Act.Query
  reaches : ∀ b, p.Reaches b

section Programs

variable {N : ∀ {β : Type}, Act β → Prop} {α : Type}

theorem asks_call {a : Act Bool} (h : a.Query) : Asks (call a) :=
  ⟨Prog.all_call.mpr h, Prog.reaches_call a⟩

/-- A branch on an answer. -/
theorem all_ite (hN : ∀ {β : Type} (a : Act β), a.Query → N a) {p : HubProg Bool} (hp : Asks p)
    {x y : HubProg α} :
    (p >>= fun b => if b = true then x else y).All N ↔ x.All N ∧ y.All N := by
  rw [Prog.all_bind_iff]
  constructor
  · exact fun h => ⟨h.2 true (hp.reaches true), h.2 false (hp.reaches false)⟩
  · refine fun h => ⟨hp.queries.mono hN, fun b _ => ?_⟩
    cases b
    · exact h.2
    · exact h.1

theorem asks_isLinkedTo (link : Path) (text : String) : Asks (isLinkedTo link text) := by
  refine ⟨Prog.All.bind (Prog.all_call.mpr trivial) fun b => ?_, fun b => ?_⟩
  · cases b
    · trivial
    · exact Prog.All.bind (Prog.all_call.mpr trivial) fun _ => trivial
  · cases b
    · exact (Prog.reaches_call (.isSymlink link) false).bind rfl
    · refine (Prog.reaches_call (.isSymlink link) true).bind ?_
      exact (Prog.reaches_call (.readlink link) text).bind (beq_self_eq_true text)

theorem asks_isRealDir (link : Path) : Asks (isRealDir link) := by
  refine ⟨Prog.All.bind (Prog.all_call.mpr trivial) fun b => ?_, fun b => ?_⟩
  · cases b
    · trivial
    · exact Prog.All.bind (Prog.all_call.mpr trivial) fun _ => trivial
  · refine (Prog.reaches_call (.isDir link) true).bind ?_
    exact (Prog.reaches_call (.isSymlink link) !b).bind (Bool.not_not b)

theorem asks_occupied (link : Path) : Asks (occupied link) := by
  refine ⟨Prog.All.bind (Prog.all_call.mpr trivial) fun b => ?_, fun b => ?_⟩
  · cases b
    · exact Prog.all_call.mpr trivial
    · trivial
  · exact (Prog.reaches_call (.present link) false).bind (Prog.reaches_call (.isSymlink link) b)

/-- A call, whatever it returns. -/
theorem all_call_bind {a : Act α} {β : Type} {f : α → HubProg β} :
    (call a >>= f).All N ↔ N a ∧ ∀ b, (f b).All N := by
  rw [Prog.all_bind_iff, Prog.all_call]
  exact and_congr_right fun _ => ⟨fun h b => h b (Prog.reaches_call a b), fun h b _ => h b⟩

theorem clearLink_all (hN : ∀ {β : Type} (a : Act β), a.Query → N a) (link : Path) :
    (clearLink link).All N ↔ N (.rmtree link) ∧ N (.unlink link) := by
  unfold clearLink
  rw [all_ite hN (asks_occupied link), all_ite hN (asks_isRealDir link), Prog.all_call, Prog.all_call]
  exact and_iff_left trivial

theorem clearLink_reaches (link : Path) : (clearLink link).Reaches () :=
  ((asks_occupied link).reaches false).bind rfl

/-- What `_replace_symlink` can do. -/
theorem replaceSymlink_all (hN : ∀ {β : Type} (a : Act β), a.Query → N a) (cwd : Location)
    (link target : Path) :
    (replaceSymlink cwd link target false).All N ↔ (N (.rmtree link) ∧ N (.unlink link)) ∧
      N (.mkdirParents link.parent) ∧ N (.symlinkTo link (relpath cwd target link.parent)) := by
  unfold replaceSymlink
  rw [all_ite hN (asks_isLinkedTo link _), if_neg Bool.false_ne_true, Prog.all_bind_iff,
    clearLink_all hN]
  constructor
  · rintro ⟨-, hclear, hrest⟩
    obtain ⟨hmkdir, hlink⟩ := all_call_bind.mp (hrest () (clearLink_reaches link))
    exact ⟨hclear, hmkdir, (all_call_bind.mp (hlink ())).1⟩
  · rintro ⟨hclear, hmkdir, hlink⟩
    exact ⟨trivial, hclear, fun _ _ => all_call_bind.mpr ⟨hmkdir, fun _ =>
      all_call_bind.mpr ⟨hlink, fun _ => trivial⟩⟩⟩

theorem replaceSymlink_reaches (cwd : Location) (link target : Path) :
    ∃ report, (replaceSymlink cwd link target false).Reaches report :=
  ⟨_, ((asks_isLinkedTo link _).reaches true).bind rfl⟩

theorem removeIfPresent_all (hN : ∀ {β : Type} (a : Act β), a.Query → N a) (p : Path) :
    (removeIfPresent p).All N ↔ N (.rmtree p) := by
  unfold removeIfPresent
  rw [all_ite hN (asks_call (a := .present p) trivial), Prog.all_call]
  exact and_iff_left trivial

theorem removeIfPresent_reaches (p : Path) : (removeIfPresent p).Reaches () :=
  (Prog.reaches_call (.present p) false).bind rfl

/-- What an installation can do. -/
theorem installVersion_all (hN : ∀ {β : Type} (a : Act β), a.Query → N a) (cwd : Location)
    (source target active : Path) :
    (installVersion cwd source target active).All N ↔ N (.mkdirParents target.parent) ∧
      ∀ tmp, target.withSuffix ".tmp" = some tmp → N (.rmtree tmp) ∧ N (.copytree source tmp) ∧
        N (.rmtree target) ∧ N (.replace tmp target) ∧
          (replaceSymlink cwd active target false).All N := by
  unfold installVersion
  rw [all_call_bind]
  cases htmp : target.withSuffix ".tmp" with
  | none => exact and_congr_right fun _ => ⟨(fun _ _ h => (by cases h)), fun _ _ => trivial⟩
  | some tmp =>
    refine and_congr_right fun _ => ⟨fun h tmp' heq => ?_, fun h _ => ?_⟩
    · obtain rfl := Option.some.inj heq
      have hall := h ()
      rw [Prog.all_bind_iff, removeIfPresent_all hN] at hall
      obtain ⟨hcopy, hrest⟩ := all_call_bind.mp (hall.2 () (removeIfPresent_reaches tmp))
      have htarget := hrest ()
      rw [Prog.all_bind_iff, removeIfPresent_all hN] at htarget
      obtain ⟨hreplace, hlink⟩ := all_call_bind.mp (htarget.2 () (removeIfPresent_reaches target))
      exact ⟨hall.1, hcopy, htarget.1, hreplace, (Prog.all_bind_iff.mp (hlink ())).1⟩
    · obtain ⟨htmp, hcopy, htarget, hreplace, hlink⟩ := h tmp rfl
      refine Prog.all_bind_iff.mpr ⟨(removeIfPresent_all hN tmp).mpr htmp, fun _ _ => ?_⟩
      refine all_call_bind.mpr ⟨hcopy, fun _ => ?_⟩
      refine Prog.all_bind_iff.mpr ⟨(removeIfPresent_all hN target).mpr htarget, fun _ _ => ?_⟩
      refine all_call_bind.mpr ⟨hreplace, fun _ => ?_⟩
      exact Prog.all_bind_iff.mpr ⟨hlink, fun _ _ => trivial⟩

theorem installVersion_reaches (cwd : Location) {source target active : Path}
    (h : (target.withSuffix ".tmp").isSome) : (installVersion cwd source target active).Reaches () := by
  obtain ⟨tmp, htmp⟩ := Option.isSome_iff_exists.mp h
  obtain ⟨report, hlink⟩ := replaceSymlink_reaches cwd active target
  refine (Prog.reaches_call _ ()).bind ?_
  rw [htmp]
  refine (removeIfPresent_reaches tmp).bind ((Prog.reaches_call _ ()).bind ?_)
  exact (removeIfPresent_reaches target).bind ((Prog.reaches_call _ ()).bind (hlink.bind rfl))

/-- The version directory of a skill, the one that it is copied to first, and its active link. -/
def Skill.target (root : Path) (skill : Skill) : Path := versionSkillPath root skill.name skill.version

def Skill.tmp? (root : Path) (skill : Skill) : Option Path := (skill.target root).withSuffix ".tmp"

def Skill.active (root : Path) (skill : Skill) : Path := activeSkillPath root skill.name

/-- An iteration changes what its installation changes. -/
theorem syncSkill_all (hN : ∀ {β : Type} (a : Act β), a.Query → N a) (cwd : Location) (root : Path)
    (skill : Skill) : (syncSkill cwd root false skill).All N ↔
      (installVersion cwd (parse skill.source) (skill.target root) (skill.active root)).All N := by
  unfold syncSkill
  rw [all_call_bind]
  constructor
  · rintro ⟨-, h⟩
    have hfile := (all_call_bind.mp (h true)).2 true
    exact (Prog.all_bind_iff.mp hfile).1
  · refine fun h => ⟨hN (.isDir _) trivial, fun b => ?_⟩
    cases b with
    | false => trivial
    | true =>
      refine all_call_bind.mpr ⟨hN (.isFile _) trivial, fun b => ?_⟩
      cases b with
      | false => trivial
      | true => exact Prog.all_bind_iff.mpr ⟨h, fun _ _ => trivial⟩

theorem syncSkill_reaches (cwd : Location) {root : Path} {skill : Skill}
    (h : (skill.tmp? root).isSome) : ∃ report, (syncSkill cwd root false skill).Reaches report := by
  refine ⟨⟨skill.name, (parse skill.source).render, skill.version, skill.target root,
    skill.active root, "synced"⟩, ?_⟩
  unfold syncSkill
  refine (Prog.reaches_call _ true).bind ?_
  refine (Prog.reaches_call _ true).bind ?_
  exact (installVersion_reaches cwd h).bind rfl

theorem installVersion_raises (cwd : Location) {source target active : Path}
    (h : target.withSuffix ".tmp" = none) : ¬ (installVersion cwd source target active).Reaches () := by
  intro hreaches
  obtain ⟨_, -, hrest⟩ := Prog.reaches_bind_iff.mp hreaches
  rw [h] at hrest
  exact hrest

theorem syncSkill_raises (cwd : Location) {root : Path} {skill : Skill} (h : skill.tmp? root = none)
    (report : SyncReport) : ¬ (syncSkill cwd root false skill).Reaches report := by
  intro hreaches
  obtain ⟨dir, -, hdir⟩ := Prog.reaches_bind_iff.mp hreaches
  cases dir with
  | false => exact hdir
  | true =>
    obtain ⟨file, -, hfile⟩ := Prog.reaches_bind_iff.mp hdir
    cases file with
    | false => exact hfile
    | true =>
      obtain ⟨_, hinstall, -⟩ := Prog.reaches_bind_iff.mp hfile
      exact installVersion_raises cwd h hinstall

/-- The skills up to the first whose version directory has no name, at which `with_name` raises. -/
def reached (root : Path) : List Skill → List Skill
  | [] => []
  | skill :: skills => skill :: if (skill.tmp? root).isSome then reached root skills else []

theorem syncSkillHub_all (cwd : Location) (root : Path) (skills : List Skill) :
    (syncSkillHub cwd root false skills).All N ↔
      ∀ skill ∈ reached root skills, (syncSkill cwd root false skill).All N := by
  induction skills with
  | nil => exact ⟨fun _ _ h => absurd h List.not_mem_nil, fun _ => trivial⟩
  | cons skill skills ih =>
    unfold syncSkillHub reached
    rw [Prog.all_bind_iff, List.forall_mem_cons]
    refine and_congr_right fun _ => ?_
    split
    · next hsome =>
      rw [← ih]
      obtain ⟨report, hreport⟩ := syncSkill_reaches cwd hsome
      constructor
      · exact fun h => (Prog.all_bind_iff.mp (h report hreport)).1
      · exact fun h _ _ => Prog.all_bind_iff.mpr ⟨h, fun _ _ => trivial⟩
    · next hnone =>
      refine ⟨fun _ _ h => absurd h List.not_mem_nil, fun _ report hreport => ?_⟩
      exact (syncSkill_raises cwd (Option.not_isSome_iff_eq_none.mp hnone) report hreport).elim

theorem keepsExisting_queries (link : Path) (replace : Bool) :
    (keepsExisting link replace).All Act.Query := by
  refine Prog.All.bind (Prog.all_call.mpr trivial) fun b => ?_
  cases b
  · trivial
  · exact Prog.All.bind (Prog.all_call.mpr trivial) fun _ => trivial

theorem keepsExisting_reaches (link : Path) (replace : Bool) :
    (keepsExisting link replace).Reaches false :=
  (Prog.reaches_call (.present link) false).bind rfl

theorem linkTarget_all (hN : ∀ {β : Type} (a : Act β), a.Query → N a) (cwd : Location)
    (link active : Path) (replace : Bool) : (linkTarget cwd link active replace false).All N ↔
      (replaceSymlink cwd link active false).All N := by
  unfold linkTarget
  rw [Prog.all_bind_iff]
  constructor
  · exact fun h => h.2 false (keepsExisting_reaches link replace)
  · refine fun h => ⟨(keepsExisting_queries link replace).mono hN, fun b _ => ?_⟩
    cases b
    · exact h
    · trivial

theorem linkTarget_reaches (cwd : Location) (link active : Path) (replace : Bool) :
    ∃ report, (linkTarget cwd link active replace false).Reaches report := by
  obtain ⟨report, hreport⟩ := replaceSymlink_reaches cwd link active
  exact ⟨report, (keepsExisting_reaches link replace).bind hreport⟩

theorem linkTargets_all (hN : ∀ {β : Type} (a : Act β), a.Query → N a) (cwd : Location)
    (workspace active : Path) (name : String) (replace : Bool) (targets : List String) :
    (linkTargets cwd workspace active name replace false targets).All N ↔ ∀ target ∈ targets,
      (replaceSymlink cwd (workspaceSkillLink workspace target name) active false).All N := by
  induction targets with
  | nil => exact ⟨fun _ _ h => absurd h List.not_mem_nil, fun _ => trivial⟩
  | cons target targets ih =>
    unfold linkTargets
    rw [List.forall_mem_cons, ← ih, Prog.all_bind_iff, linkTarget_all hN]
    refine and_congr_right fun _ => ?_
    obtain ⟨report, hreport⟩ := linkTarget_reaches cwd (workspaceSkillLink workspace target name) active replace
    constructor
    · exact fun h => (Prog.all_bind_iff.mp (h report hreport)).1
    · exact fun h _ _ => Prog.all_bind_iff.mpr ⟨h, fun _ _ => trivial⟩

theorem linkTargets_reaches (cwd : Location) (workspace active : Path) (name : String)
    (replace : Bool) (targets : List String) :
    ∃ reports, (linkTargets cwd workspace active name replace false targets).Reaches reports := by
  induction targets with
  | nil => exact ⟨[], rfl⟩
  | cons target targets ih =>
    obtain ⟨reports, hreports⟩ := ih
    obtain ⟨report, hreport⟩ := linkTarget_reaches cwd (workspaceSkillLink workspace target name) active replace
    exact ⟨report :: reports, hreport.bind (hreports.bind rfl)⟩

theorem linkWorkspaceSkills_all (hN : ∀ {β : Type} (a : Act β), a.Query → N a) (cwd : Location)
    (root workspace : Path) (replace : Bool) (skills : List Skill) :
    (linkWorkspaceSkills cwd root workspace replace false skills).All N ↔
      ∀ skill ∈ skills, ∀ target ∈ skill.targets, (replaceSymlink cwd
        (workspaceSkillLink workspace target skill.name) (skill.active root) false).All N := by
  induction skills with
  | nil => exact ⟨fun _ _ h => absurd h List.not_mem_nil, fun _ => trivial⟩
  | cons skill skills ih =>
    unfold linkWorkspaceSkills
    rw [List.forall_mem_cons, ← ih, all_call_bind,
      ← linkTargets_all hN cwd workspace (skill.active root) skill.name replace skill.targets]
    obtain ⟨reports, hreports⟩ :=
      linkTargets_reaches cwd workspace (skill.active root) skill.name replace skill.targets
    constructor
    · rintro ⟨-, h⟩
      have hfile := (all_call_bind.mp (h true)).2 true
      obtain ⟨htargets, hrest⟩ := Prog.all_bind_iff.mp hfile
      exact ⟨htargets, (Prog.all_bind_iff.mp (hrest reports hreports)).1⟩
    · rintro ⟨htargets, hrest⟩
      refine ⟨hN (.present _) trivial, fun b => ?_⟩
      cases b with
      | false => trivial
      | true =>
        refine all_call_bind.mpr ⟨hN (.isFile _) trivial, fun b => ?_⟩
        cases b with
        | false => trivial
        | true => exact Prog.all_bind_iff.mpr ⟨htargets, fun _ _ =>
            Prog.all_bind_iff.mpr ⟨hrest, fun _ _ => trivial⟩⟩

end Programs

/-! ## Dry runs -/

theorem dryRun_replaceSymlink (cwd : Location) (link target : Path) :
    (replaceSymlink cwd link target true).All Act.Query :=
  (all_ite (fun _ h => h) (asks_isLinkedTo link _)).mpr ⟨trivial, trivial⟩

/-- A dry run of a synchronisation only asks. -/
theorem dryRun_syncSkillHub (cwd : Location) (root : Path) (skills : List Skill) :
    (syncSkillHub cwd root true skills).All Act.Query := by
  induction skills with
  | nil => trivial
  | cons skill skills ih =>
    refine Prog.All.bind (all_call_bind.mpr ⟨trivial, fun dir => ?_⟩) fun _ =>
      Prog.All.bind ih fun _ => trivial
    cases dir with
    | false => trivial
    | true =>
      refine all_call_bind.mpr ⟨trivial, fun file => ?_⟩
      cases file <;> trivial

/-- A dry run of the links only asks. -/
theorem dryRun_linkWorkspaceSkills (cwd : Location) (root workspace : Path) (replace : Bool)
    (skills : List Skill) :
    (linkWorkspaceSkills cwd root workspace replace true skills).All Act.Query := by
  have htargets : ∀ active name targets,
      (linkTargets cwd workspace active name replace true targets).All Act.Query := by
    intro active name targets
    induction targets with
    | nil => trivial
    | cons target targets ih =>
      refine Prog.All.bind (Prog.All.bind (keepsExisting_queries _ _) fun kept => ?_) fun _ =>
        Prog.All.bind ih fun _ => trivial
      cases kept with
      | true => trivial
      | false => exact dryRun_replaceSymlink cwd _ _
  induction skills with
  | nil => trivial
  | cons skill skills ih =>
    refine all_call_bind.mpr ⟨trivial, fun there => ?_⟩
    cases there with
    | false => trivial
    | true =>
      refine all_call_bind.mpr ⟨trivial, fun file => ?_⟩
      cases file with
      | false => trivial
      | true => exact Prog.All.bind (htargets _ _ _) fun _ => Prog.All.bind ih fun _ => trivial

/-! ## Staying inside -/

/-- `versions` and `active` of the hub. -/
def hubDirs (cwd : Location) (root : Path) : List Location :=
  [((hubDir root).join "versions").resolve cwd, ((hubDir root).join "active").resolve cwd]

/-- `.claude/skills` and `.codex/skills` of the workspace. -/
def linkDirs (cwd : Location) (workspace : Path) : List Location :=
  [((workspace.join ".claude").join "skills").resolve cwd,
    ((workspace.join ".codex").join "skills").resolve cwd]

/-- Strictly below one of the directories. -/
def Inside (dirs : List Location) (loc : Location) : Prop := ∃ dir ∈ dirs, Below dir loc

instance (dirs : List Location) (loc : Location) : Decidable (Inside dirs loc) :=
  inferInstanceAs (Decidable (∃ dir ∈ dirs, Below dir loc))

/-- Whatever the program does is inside the directories. -/
def Stays (cwd : Location) (there : Location → Prop) (dirs : List Location) {α : Type}
    (p : HubProg α) : Prop :=
  p.All fun a => ∀ loc, a.Touches cwd there loc → Inside dirs loc

/-- The program neither removes nor replaces the version directory and the active link of a skill. -/
def Spares (cwd : Location) (root : Path) (other : Skill) {α : Type} (p : HubProg α) : Prop :=
  p.All fun a => ∀ loc, a.Removes cwd loc →
    ¬ loc <+: (other.target root).resolve cwd ∧ ¬ loc <+: (other.active root).resolve cwd

/-- Synchronisation stays in the hub, the links stay in the workspace, and no skill disturbs
another. -/
structure Contained (cwd : Location) (there : Location → Prop) (root workspace : Path)
    (replace : Bool) (skills : List Skill) : Prop where
  sync : Stays cwd there (hubDirs cwd root) (syncSkillHub cwd root false skills)
  link : Stays cwd there (linkDirs cwd workspace)
    (linkWorkspaceSkills cwd root workspace replace false skills)
  apart : ∀ skill ∈ reached root skills, ∀ other ∈ skills, skill.name ≠ other.name →
    Spares cwd root other (syncSkill cwd root false skill)

/-- The directories on the way are there, or are inside. -/
def OnTheWay (cwd : Location) (there : Location → Prop) (dirs : List Location) (p : Path) : Prop :=
  ∀ q ∈ p.above, there (q.resolve cwd) ∨ Inside dirs (q.resolve cwd)

/-- The paths at which a skill is put, if `with_name` has a name to extend. -/
def Skill.places (root : Path) (skill : Skill) : List Path :=
  match skill.tmp? root with
  | none => []
  | some tmp => [tmp, skill.target root, skill.active root]

/-- The paths of the skills lead into the hub and into the workspace, and no path of a skill leads to
the version directory or the active link of another, or to a directory above one. -/
structure Tidy (cwd : Location) (there : Location → Prop) (root workspace : Path)
    (skills : List Skill) : Prop where
  places : ∀ skill ∈ reached root skills, ∀ p ∈ skill.places root,
    Inside (hubDirs cwd root) (p.resolve cwd)
  versionDirs : ∀ skill ∈ reached root skills,
    OnTheWay cwd there (hubDirs cwd root) (skill.target root).parent
  activeDirs : ∀ skill ∈ reached root skills, (skill.tmp? root).isSome →
    OnTheWay cwd there (hubDirs cwd root) (skill.active root).parent
  links : ∀ skill ∈ skills, ∀ target ∈ skill.targets,
    Inside (linkDirs cwd workspace) ((workspaceSkillLink workspace target skill.name).resolve cwd) ∧
      OnTheWay cwd there (linkDirs cwd workspace) (workspaceSkillLink workspace target skill.name).parent
  apart : ∀ skill ∈ reached root skills, ∀ other ∈ skills, skill.name ≠ other.name →
    ∀ p ∈ skill.places root, ¬ p.resolve cwd <+: (other.target root).resolve cwd ∧
      ¬ p.resolve cwd <+: (other.active root).resolve cwd

section Contained

variable {cwd : Location} {there : Location → Prop} {dirs : List Location}

theorem touches_query {α : Type} (a : Act α) (h : a.Query) :
    ∀ loc, a.Touches cwd there loc → Inside dirs loc := by
  cases a <;> first | exact h.elim | exact fun _ h => h.elim

theorem removes_query {root : Path} {other : Skill} {α : Type} (a : Act α) (h : a.Query) :
    ∀ loc, a.Removes cwd loc → ¬ loc <+: (other.target root).resolve cwd ∧
      ¬ loc <+: (other.active root).resolve cwd := by
  cases a <;> first | exact h.elim | exact fun _ h => h.elim

theorem forall_mkdir {p : Path} :
    (∀ loc, (Act.mkdirParents p).Touches cwd there loc → Inside dirs loc) ↔
      OnTheWay cwd there dirs p := by
  constructor
  · intro h q hq
    by_cases hthere : there (q.resolve cwd)
    · exact Or.inl hthere
    · exact Or.inr (h _ ⟨hthere, q, hq, rfl⟩)
  · rintro h loc ⟨hthere, q, hq, rfl⟩
    exact (h q hq).resolve_left hthere

/-- A link stays inside with the directories above it. -/
theorem stays_replaceSymlink (link target : Path) :
    Stays cwd there dirs (replaceSymlink cwd link target false) ↔
      Inside dirs (link.resolve cwd) ∧ OnTheWay cwd there dirs link.parent := by
  unfold Stays
  rw [replaceSymlink_all touches_query, forall_mkdir]
  constructor
  · exact fun h => ⟨h.1.1 _ rfl, h.2.1⟩
  · rintro ⟨hlink, hdirs⟩
    have hat : ∀ loc, link.resolve cwd = loc → Inside dirs loc := fun loc h => h ▸ hlink
    exact ⟨⟨hat, hat⟩, hdirs, hat⟩

theorem stays_syncSkill (root : Path) (skill : Skill) :
    Stays cwd there dirs (syncSkill cwd root false skill) ↔
      (∀ p ∈ skill.places root, Inside dirs (p.resolve cwd)) ∧
        OnTheWay cwd there dirs (skill.target root).parent ∧
        ((skill.tmp? root).isSome → OnTheWay cwd there dirs (skill.active root).parent) := by
  unfold Stays
  rw [syncSkill_all touches_query, installVersion_all touches_query, forall_mkdir]
  unfold Skill.places
  cases htmp : skill.tmp? root with
  | none =>
    have hnone : (skill.target root).withSuffix ".tmp" = none := htmp
    rw [hnone]
    exact ⟨fun h => ⟨fun _ hp => absurd hp List.not_mem_nil, h.1, (fun h => (by cases h))⟩,
      fun h => ⟨h.2.1, (fun _ h => (by cases h))⟩⟩
  | some tmp =>
    have hsome : (skill.target root).withSuffix ".tmp" = some tmp := htmp
    rw [hsome]
    have hat : ∀ {p : Path}, Inside dirs (p.resolve cwd) → ∀ loc, p.resolve cwd = loc → Inside dirs loc :=
      fun hp _ h => h ▸ hp
    constructor
    · rintro ⟨hdirs, h⟩
      obtain ⟨htmpdir, -, htarget, -, hlink⟩ := h tmp rfl
      obtain ⟨hactive, hactivedirs⟩ := (stays_replaceSymlink _ _).mp hlink
      refine ⟨fun p hp => ?_, hdirs, fun _ => hactivedirs⟩
      rcases List.mem_cons.mp hp with rfl | hp
      · exact htmpdir _ rfl
      rcases List.mem_cons.mp hp with rfl | hp
      · exact htarget _ rfl
      · exact List.mem_singleton.mp hp ▸ hactive
    · rintro ⟨hplaces, hdirs, hactivedirs⟩
      refine ⟨hdirs, fun tmp' heq => ?_⟩
      obtain rfl := Option.some.inj heq
      have htmpdir := hplaces tmp List.mem_cons_self
      have htarget := hplaces _ (List.mem_cons_of_mem _ List.mem_cons_self)
      have hactive := hplaces (skill.active root) (by simp)
      refine ⟨hat htmpdir, hat htmpdir, hat htarget, fun loc h => ?_, ?_⟩
      · exact h.elim (hat htmpdir loc) (hat htarget loc)
      · exact (stays_replaceSymlink _ _).mpr ⟨hactive, hactivedirs rfl⟩

theorem spares_replaceSymlink {root : Path} {other : Skill} (link target : Path) :
    Spares cwd root other (replaceSymlink cwd link target false) ↔
      ¬ link.resolve cwd <+: (other.target root).resolve cwd ∧
        ¬ link.resolve cwd <+: (other.active root).resolve cwd := by
  unfold Spares
  rw [replaceSymlink_all removes_query]
  constructor
  · exact fun h => h.1.1 _ rfl
  · intro hlink
    have hat : ∀ loc, link.resolve cwd = loc → ¬ loc <+: (other.target root).resolve cwd ∧
        ¬ loc <+: (other.active root).resolve cwd := fun loc h => h ▸ hlink
    exact ⟨⟨hat, hat⟩, (fun _ h => h.elim), hat⟩

theorem spares_syncSkill (root : Path) (skill other : Skill) :
    Spares cwd root other (syncSkill cwd root false skill) ↔ ∀ p ∈ skill.places root,
      ¬ p.resolve cwd <+: (other.target root).resolve cwd ∧
        ¬ p.resolve cwd <+: (other.active root).resolve cwd := by
  unfold Spares
  rw [syncSkill_all removes_query, installVersion_all removes_query]
  unfold Skill.places
  cases htmp : skill.tmp? root with
  | none =>
    have hnone : (skill.target root).withSuffix ".tmp" = none := htmp
    rw [hnone]
    exact ⟨fun _ _ hp => absurd hp List.not_mem_nil, fun _ => ⟨(fun _ h => h.elim), (fun _ h => (by cases h))⟩⟩
  | some tmp =>
    have hsome : (skill.target root).withSuffix ".tmp" = some tmp := htmp
    rw [hsome]
    constructor
    · rintro ⟨-, h⟩ p hp
      obtain ⟨htmpdir, -, htarget, -, hlink⟩ := h tmp rfl
      rcases List.mem_cons.mp hp with rfl | hp
      · exact htmpdir _ rfl
      rcases List.mem_cons.mp hp with rfl | hp
      · exact htarget _ rfl
      · exact List.mem_singleton.mp hp ▸ (spares_replaceSymlink _ _).mp hlink
    · intro hplaces
      refine ⟨(fun _ h => h.elim), fun tmp' heq => ?_⟩
      obtain rfl := Option.some.inj heq
      have htmpdir := hplaces tmp List.mem_cons_self
      have htarget := hplaces _ (List.mem_cons_of_mem _ List.mem_cons_self)
      have hactive := hplaces (skill.active root) (by simp)
      refine ⟨fun loc h => h ▸ htmpdir, (fun _ h => h.elim), fun loc h => h ▸ htarget, fun loc h => ?_,
        (spares_replaceSymlink _ _).mpr hactive⟩
      rcases h with rfl | rfl
      · exact htmpdir
      · exact htarget

theorem contained_iff_tidy (root workspace : Path) (replace : Bool) (skills : List Skill) :
    Contained cwd there root workspace replace skills ↔ Tidy cwd there root workspace skills := by
  have hsync : Stays cwd there (hubDirs cwd root) (syncSkillHub cwd root false skills) ↔
      ∀ skill ∈ reached root skills,
        Stays cwd there (hubDirs cwd root) (syncSkill cwd root false skill) := syncSkillHub_all cwd root skills
  have hlink : Stays cwd there (linkDirs cwd workspace)
      (linkWorkspaceSkills cwd root workspace replace false skills) ↔
      ∀ skill ∈ skills, ∀ target ∈ skill.targets, Stays cwd there (linkDirs cwd workspace)
        (replaceSymlink cwd (workspaceSkillLink workspace target skill.name) (skill.active root) false) :=
    linkWorkspaceSkills_all touches_query cwd root workspace replace skills
  simp only [stays_syncSkill] at hsync
  simp only [stays_replaceSymlink] at hlink
  constructor
  · rintro ⟨h₁, h₂, h₃⟩
    have h₁ := hsync.mp h₁
    exact ⟨fun skill hs => (h₁ skill hs).1, fun skill hs => (h₁ skill hs).2.1,
      fun skill hs => (h₁ skill hs).2.2, hlink.mp h₂, fun skill hs other ho hne =>
        (spares_syncSkill root skill other).mp (h₃ skill hs other ho hne)⟩
  · intro h
    exact ⟨hsync.mpr fun skill hs => ⟨h.places skill hs, h.versionDirs skill hs, h.activeDirs skill hs⟩,
      hlink.mpr h.links, fun skill hs other ho hne =>
        (spares_syncSkill root skill other).mpr (h.apart skill hs other ho hne)⟩

end Contained

section Examples

/-- A manifest of skills with these names and versions. -/
def manifestOf (skills : List (String × String)) : List (String × Value) :=
  [("skills", .list (skills.map fun skill =>
    .map [("name", .str skill.1), ("source", .str "/sources/skill"), ("version", .str skill.2)] "") "")]

/-- The skills of such a manifest. -/
def skillsOf (skills : List (String × String)) : List Skill :=
  skills.map fun skill => ⟨skill.1, "/sources/skill", skill.2, defaultTargets⟩

end Examples

/-! ## Ordinary names -/

section Components

variable {cwd : Location} {there : Location → Prop} {dirs : List Location}

theorem component_literals : (Component "skill_hub" ∧ Component "versions" ∧ Component "active") ∧
    Component ".claude" ∧ Component ".codex" ∧ Component "skills" := by
  have hnames : ∀ name ∈ ["skill_hub", "versions", "active", ".claude", ".codex", "skills"],
      Component name := components_of_plainNames (by decide +kernel)
  simpa [and_assoc] using hnames

/-- A path below a directory that is there. -/
theorem onTheWay_join {p : Path} {text : String} (h : Component text)
    (hp : ∀ q ∈ p.above, there (q.resolve cwd)) (hdir : p.resolve cwd ∈ dirs) :
    OnTheWay cwd there dirs (p.join text) := by
  intro q hq
  rcases (mem_above_join_component h).mp hq with hq | rfl
  · exact Or.inl (hp q hq)
  · refine Or.inr ⟨_, hdir, ?_⟩
    rw [resolve_join_component h]
    exact below_append (List.cons_ne_nil _ _)

theorem mem_above_self (p : Path) : p ∈ p.above :=
  List.mem_map.mpr ⟨p.parts, (List.mem_inits _ _).mpr List.prefix_rfl, rfl⟩

theorem onTheWay_self {p : Path} (hp : ∀ q ∈ p.above, there (q.resolve cwd)) :
    OnTheWay cwd there dirs p := fun q hq => Or.inl (hp q hq)

variable {root : Path} {skill : Skill}

/-- Where the paths of a skill lead. -/
theorem places_of_components (hname : Component skill.name) (hversion : Component skill.version)
    {p : Path} (hp : p ∈ skill.places root) : ∃ rest,
      p.resolve cwd = ((hubDir root).join "versions").resolve cwd ++ skill.name :: rest ∨
        p.resolve cwd = ((hubDir root).join "active").resolve cwd ++ [skill.name] := by
  have hsuffix : skill.version ++ ".tmp" ≠ ".." := by
    intro h
    have hlen := congrArg String.length h
    rw [String.length_append] at hlen
    have : ".tmp".length = 4 := by decide
    have : "..".length = 2 := by decide
    omega
  have htarget : (skill.target root).resolve cwd =
      ((hubDir root).join "versions").resolve cwd ++ skill.name :: [skill.version] := by
    unfold Skill.target versionSkillPath
    rw [resolve_join_component hversion, resolve_join_component hname, List.append_assoc]
    rfl
  have htmp : skill.tmp? root = some _ := withSuffix_join_component hversion ".tmp"
  unfold Skill.places at hp
  rw [htmp] at hp
  rcases List.mem_cons.mp hp with rfl | hp
  · refine ⟨[skill.version ++ ".tmp"], Or.inl ?_⟩
    rw [resolve_concat hsuffix, resolve_join_component hname, List.append_assoc]
    rfl
  rcases List.mem_cons.mp hp with rfl | hp
  · exact ⟨_, Or.inl htarget⟩
  · rw [List.mem_singleton.mp hp]
    refine ⟨[skill.version], Or.inr ?_⟩
    unfold Skill.active activeSkillPath
    rw [resolve_join_component hname]

/-- The directories of the hub and of the workspace are there. -/
structure DirsThere (cwd : Location) (there : Location → Prop) (root workspace : Path) : Prop where
  versions : ∀ q ∈ ((hubDir root).join "versions").above, there (q.resolve cwd)
  active : ∀ q ∈ ((hubDir root).join "active").above, there (q.resolve cwd)
  claude : ∀ q ∈ ((workspace.join ".claude").join "skills").above, there (q.resolve cwd)
  codex : ∀ q ∈ ((workspace.join ".codex").join "skills").above, there (q.resolve cwd)

theorem mem_reached {skills : List Skill} (h : skill ∈ reached root skills) : skill ∈ skills := by
  induction skills with
  | nil => exact h
  | cons first skills ih =>
    rcases List.mem_cons.mp h with rfl | h
    · exact List.mem_cons_self
    · split at h
      · exact List.mem_cons_of_mem _ (ih h)
      · exact absurd h List.not_mem_nil

theorem links_of_component {workspace : Path} (hthere : DirsThere cwd there root workspace)
    {name : String} (hname : Component name) (target : String) :
    Inside (linkDirs cwd workspace) ((workspaceSkillLink workspace target name).resolve cwd) ∧
      OnTheWay cwd there (linkDirs cwd workspace) (workspaceSkillLink workspace target name).parent := by
  unfold workspaceSkillLink
  rw [parent_join_component hname, resolve_join_component hname]
  split
  · exact ⟨⟨_, List.mem_cons_self, below_append (List.cons_ne_nil _ _)⟩, onTheWay_self hthere.claude⟩
  · exact ⟨⟨_, List.mem_cons_of_mem _ List.mem_cons_self, below_append (List.cons_ne_nil _ _)⟩,
      onTheWay_self hthere.codex⟩

/-- Paths of two names do not lead to each other. -/
theorem apart_of_components {other : Skill}
    (hname : Component skill.name) (hversion : Component skill.version)
    (hname' : Component other.name) (hversion' : Component other.version)
    (hne : skill.name ≠ other.name) {p : Path} (hp : p ∈ skill.places root) :
    ¬ p.resolve cwd <+: (other.target root).resolve cwd ∧
      ¬ p.resolve cwd <+: (other.active root).resolve cwd := by
  obtain ⟨⟨-, hversions, hactive⟩, -⟩ := component_literals
  obtain ⟨rest, hplace⟩ := @places_of_components cwd root skill hname hversion p hp
  unfold Skill.target Skill.active versionSkillPath activeSkillPath
  rw [resolve_join_component hversion', resolve_join_component hname', resolve_join_component hname']
  rw [resolve_join_component hversions, resolve_join_component hactive] at *
  rcases hplace with hplace | hplace <;> rw [hplace] <;>
    simp [List.append_assoc, List.prefix_append_right_inj, List.cons_prefix_cons, hne]

/-- Names and versions that are ordinary components are tidy. -/
theorem tidy_of_components {workspace : Path} {skills : List Skill}
    (hthere : DirsThere cwd there root workspace)
    (hskills : ∀ skill ∈ skills, Component skill.name ∧ Component skill.version) :
    Tidy cwd there root workspace skills where
  places skill hs p hp := by
    obtain ⟨hname, hversion⟩ := hskills skill (mem_reached hs)
    obtain ⟨rest, hplace | hplace⟩ := @places_of_components cwd root skill hname hversion p hp
    · exact ⟨_, List.mem_cons_self, hplace ▸ below_append (List.cons_ne_nil _ _)⟩
    · exact ⟨_, List.mem_cons_of_mem _ List.mem_cons_self, hplace ▸ below_append (List.cons_ne_nil _ _)⟩
  versionDirs skill hs := by
    obtain ⟨hname, hversion⟩ := hskills skill (mem_reached hs)
    unfold Skill.target versionSkillPath
    rw [parent_join_component hversion]
    exact onTheWay_join hname hthere.versions List.mem_cons_self
  activeDirs skill hs _ := by
    unfold Skill.active activeSkillPath
    rw [parent_join_component (hskills skill (mem_reached hs)).1]
    exact onTheWay_self hthere.active
  links skill hs target _ := links_of_component hthere (hskills skill hs).1 target
  apart skill hs other ho hne p hp := by
    obtain ⟨hname, hversion⟩ := hskills skill (mem_reached hs)
    obtain ⟨hname', hversion'⟩ := hskills other ho
    exact apart_of_components hname hversion hname' hversion' hne hp

end Components

end SkillHub
